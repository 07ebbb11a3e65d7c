-- Constraints of a table definition in the strict grammar, and the keys of an index. Constraints
-- are kept as the text they are printed back as.
import SchemaChart.Grammar.Column

namespace SchemaChart.Grammar

open Reader

/-! ## Keys of an index -/

/-- The method of an index behind `USING`. -/
def indexMethod? : Reader (Option String) := do
  if ← key "USING" then
    match ← oneOf ["BTREE", "HASH", "GIN", "GIST", "SPGIST", "BRIN", "BLOOM"] with
    | some k => return some k
    | none => some <$> Name.render <$> identifier
  else return none

/-- An option behind the keys of an index. -/
def indexOption : Reader (Option String) := do
  match ← indexMethod? with
  | some m => return some ("USING " ++ m)
  | none =>
    if ← key "COMMENT" then return some ("COMMENT '" ++ (← literalString) ++ "'") else return none

def indexOptions (sep : String) : Reader String := do
  let os ← repeated indexOption
  return if os.isEmpty then "" else " " ++ sep.intercalate os

/-- `KEY` or `INDEX` behind the kind of a key. -/
def keyOrIndex : Reader String := do
  match ← oneOf ["KEY", "INDEX"] with
  | some k => return " " ++ k
  | none => return ""

/-- Whether a check is enforced, as text. -/
def enforcement : Reader String := firstFlag [["ENFORCED"], ["NOT", "ENFORCED"]]

section

variable (r : Nested)

/-- One key of an index: an expression, its order, and perhaps an operator class, which is
printed last. -/
def indexKey : Reader String := do
  let e ← r.any
  let cls ←
    if ← atOneOf ["ASC", "DESC", "NULLS", "WITH"] then pure none
    else attempt (Name.render <$> identifier)
  let order ← orderOptions
  return e.text ++ order ++ spacedText cls

def indexKeys : Reader (List String) := listOf (indexKey r)

/-! ## Constraints of a table -/

/-- What `KEY` and `INDEX` introduce in MySQL. -/
def indexConstraint (word : String) : Reader String := do
  let name ← if ← atKey "USING" then pure none else identifier?
  let method ← indexMethod?
  let ks ← indexKeys r
  let options ← indexOptions ", "
  return word ++ spacedText (name.map Name.render) ++ spacedText (method.map ("USING " ++ ·))
    ++ " (" ++ ", ".intercalate ks ++ ")" ++ options

/-- A unique constraint, from behind its key word. -/
def uniqueConstraint : Reader String := do
  let word ← keyOrIndex
  if !word.isEmpty && (← flavor) != .mysql then
    expectedHere "`index_name` or `(column_name [, ...])`"
  let nulls ←
    if ← key "NULLS" then
      let no ← key "NOT"
      expectKey "DISTINCT"
      pure (if no then " NULLS NOT DISTINCT" else " NULLS DISTINCT")
    else pure ""
  let name ← identifier?
  let method ← indexMethod?
  let ks ← indexKeys r
  let options ← indexOptions " "
  let when_ ← timing
  return "UNIQUE" ++ nulls ++ word ++ spacedText (name.map Name.render)
    ++ spacedText (method.map ("USING " ++ ·)) ++ " (" ++ ", ".intercalate ks ++ ")"
    ++ options ++ when_

/-- A primary key, from behind `PRIMARY`. -/
def primaryConstraint : Reader String := do
  expectKey "KEY"
  let name ← identifier?
  let method ← indexMethod?
  let ks ← indexKeys r
  let options ← indexOptions " "
  let when_ ← timing
  return "PRIMARY KEY" ++ spacedText (name.map Name.render)
    ++ spacedText (method.map ("USING " ++ ·))
    ++ " (" ++ ", ".intercalate ks ++ ")" ++ options ++ when_

/-- A foreign key, from behind `FOREIGN`. -/
def foreignConstraint : Reader String := do
  expectKey "KEY"
  let name ← identifier?
  let columns ← columnList
  expectKey "REFERENCES"
  let target ← objectName
  let targetColumns ← optionalColumnList
  let list := if targetColumns.isEmpty then "" else "(" ++ ", ".intercalate targetColumns ++ ")"
  return "FOREIGN KEY" ++ spacedText (name.map Name.render) ++ " (" ++ ", ".intercalate columns
    ++ ") REFERENCES " ++ target ++ list ++ (← referenceRules)

/-- Reads a constraint of a table as text, if one is ahead. -/
def tableConstraint? : Reader (Option String) := do
  let f ← flavor
  let name ← if ← key "CONSTRAINT" then some <$> identifier else pure none
  let named (body : Reader String) : Reader (Option String) := do
    let s ← body
    return some (match name with
      | some n => "CONSTRAINT " ++ n.render ++ " " ++ s
      | none => s)
  let t ← peek
  match t.token with
  | .word _ _ k =>
    if k == "UNIQUE" then named (next *> uniqueConstraint r)
    else if k == "PRIMARY" then named (next *> primaryConstraint r)
    else if k == "FOREIGN" then named (next *> foreignConstraint)
    else if k == "CHECK" then named do
      let _ ← next
      let e ← parens r.any
      return "CHECK (" ++ e.text ++ ")" ++ (← enforcement)
    else if (k == "INDEX" || k == "KEY") && f == .mysql && name.isNone then
      some <$> (next *> indexConstraint r k)
    else if (k == "FULLTEXT" || k == "SPATIAL") && f == .mysql then
      match name with
      | some n =>
        expected "FULLTEXT or SPATIAL option without constraint name"
          { t with token := .word n.render none n.value }
      | none =>
        let _ ← next
        let word ← keyOrIndex
        let index ← identifier?
        let ks ← indexKeys r
        return some (k ++ word ++ spacedText (index.map Name.render) ++ " (" ++ ", ".intercalate ks
          ++ ")")
    else if name.isSome then expected "PRIMARY, UNIQUE, FOREIGN, or CHECK" t
    else return none
  | _ => if name.isSome then expected "PRIMARY, UNIQUE, FOREIGN, or CHECK" t else return none

end

end SchemaChart.Grammar
