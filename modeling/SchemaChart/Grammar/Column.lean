-- Columns of a table definition in the strict grammar. Options that carry no fact of their own are
-- kept as the text they are printed back as.
import SchemaChart.Grammar.Operand

namespace SchemaChart.Grammar

open Reader

/-- An option behind the type of a column. -/
inductive ColumnOption where
  | notNull
  | null
  | default (value : String)
  | comment (text : String)
  /-- Any other option, as printed back. -/
  | other (text : String)
deriving Repr, DecidableEq

def ColumnOption.render : ColumnOption → String
  | notNull => "NOT NULL"
  | null => "NULL"
  | default value => "DEFAULT " ++ value
  | comment text => "COMMENT " ++ quoteText '\'' text
  | other text => text

/-- A column of a table definition; an option may carry the name of a constraint. -/
structure ColumnDefinition where
  name : Name
  type : String
  options : List (Option Name × ColumnOption)
deriving Repr, DecidableEq

/-- The column as it is printed back. -/
def ColumnDefinition.render (d : ColumnDefinition) : String :=
  let option : Option Name × ColumnOption → String := fun (name, o) =>
    (match name with | some n => "CONSTRAINT " ++ n.render ++ " " | none => "") ++ o.render
  let type := if d.type.isEmpty then [] else [d.type]
  " ".intercalate (d.name.render :: type ++ d.options.map option)

/-! ## Parts of keys -/

/-- A text with a space before it, or nothing. -/
def spacedText (s : Option String) : String :=
  match s with
  | some s => " " ++ s
  | none => ""

/-- When a constraint is checked, as text. -/
structure Timing where
  deferrable : Option String := none
  initially : Option String := none
  enforced : Option String := none

/-- One word about the timing of a constraint, if one that was not given yet is ahead. -/
def timingStep (t : Timing) : Reader (Option Timing) := do
  if ← keysIf t.deferrable.isNone ["NOT", "DEFERRABLE"] then
    return some { t with deferrable := some "NOT DEFERRABLE" }
  else if ← keysIf t.deferrable.isNone ["DEFERRABLE"] then
    return some { t with deferrable := some "DEFERRABLE" }
  else if ← keysIf t.initially.isNone ["INITIALLY"] then
    if ← key "DEFERRED" then return some { t with initially := some "INITIALLY DEFERRED" }
    else if ← key "IMMEDIATE" then return some { t with initially := some "INITIALLY IMMEDIATE" }
    else expectedHere "one of DEFERRED or IMMEDIATE"
  else if ← keysIf t.enforced.isNone ["ENFORCED"] then
    return some { t with enforced := some "ENFORCED" }
  else if ← keysIf t.enforced.isNone ["NOT", "ENFORCED"] then
    return some { t with enforced := some "NOT ENFORCED" }
  else return none

def timingFrom : Nat → Timing → Reader Timing
  | 0, t => return t
  | n + 1, t => do
    match ← timingStep t with
    | some t' => timingFrom n t'
    | none => return t

/-- The timing of a constraint as text, with a space before it if there is any. Each of the
three words is taken once at most. -/
def timing : Reader String := do
  let t ← timingFrom 4 {}
  let parts := [t.deferrable, t.initially, t.enforced].filterMap id
  return String.join (parts.map (" " ++ ·))

def referentialAction : Reader String := do
  if ← key "RESTRICT" then return "RESTRICT"
  else if ← key "CASCADE" then return "CASCADE"
  else if ← keys ["SET", "NULL"] then return "SET NULL"
  else if ← keys ["NO", "ACTION"] then return "NO ACTION"
  else if ← keys ["SET", "DEFAULT"] then return "SET DEFAULT"
  else expectedHere "one of RESTRICT, CASCADE, SET NULL, NO ACTION or SET DEFAULT"

/-- What a reference says about matching and about changes of the target. -/
structure ReferenceRules where
  matching : Option String := none
  onDelete : Option String := none
  onUpdate : Option String := none

def ReferenceRules.step (t : ReferenceRules) : Reader (Option ReferenceRules) := do
  if ← keysIf t.matching.isNone ["MATCH"] then
    if ← key "FULL" then return some { t with matching := some "MATCH FULL" }
    else if ← key "PARTIAL" then return some { t with matching := some "MATCH PARTIAL" }
    else if ← key "SIMPLE" then return some { t with matching := some "MATCH SIMPLE" }
    else expectedHere "one of FULL, PARTIAL or SIMPLE"
  else if ← keysIf t.onDelete.isNone ["ON", "DELETE"] then
    return some { t with onDelete := some (← referentialAction) }
  else if ← keysIf t.onUpdate.isNone ["ON", "UPDATE"] then
    return some { t with onUpdate := some (← referentialAction) }
  else return none

def ReferenceRules.readFrom : Nat → ReferenceRules → Reader ReferenceRules
  | 0, t => return t
  | n + 1, t => do
    match ← t.step with
    | some t' => ReferenceRules.readFrom n t'
    | none => return t

/-- The rules of a reference and its timing, as text. -/
def referenceRules : Reader String := do
  let t ← ReferenceRules.readFrom 4 {}
  let onDelete := t.onDelete.map ("ON DELETE " ++ ·)
  let onUpdate := t.onUpdate.map ("ON UPDATE " ++ ·)
  return spacedText t.matching ++ spacedText onDelete ++ spacedText onUpdate ++ (← timing)

/-! ## Options of a column -/

/-- The text of a comment. -/
def commentText : Reader String := do
  let t ← next
  match t.token with
  | .text .single v => return v
  | .dollar _ v => return v
  | _ => expected "string literal" t

/-- The settings of a sequence; their order is fixed. -/
def sequenceOptions : Reader String := do
  let number (words : List (List String)) : Reader String := do
    let word ← firstFlag words
    if word.isEmpty then return "" else return word ++ " " ++ (← signedNumber)
  let bound (word : String) : Reader String := do
    let none_ ← flag ["NO", word]
    if none_.isEmpty then number [[word]] else return none_
  let increment ← number [["INCREMENT", "BY"], ["INCREMENT"]]
  let least ← bound "MINVALUE"
  let most ← bound "MAXVALUE"
  let start ← number [["START", "WITH"], ["START"]]
  let cache ← number [["CACHE"]]
  let cycle ← firstFlag [["NO", "CYCLE"], ["CYCLE"]]
  return increment ++ least ++ most ++ start ++ cache ++ cycle

/-- An identity column, from behind `IDENTITY`. -/
def identityRest (start : String) : Reader ColumnOption := do
  if ← mark "(" then
    let options ← sequenceOptions
    expectMark ")"
    return .other (if options.isEmpty then start else start ++ " (" ++ options ++ " )")
  else return .other start

/-- How a computed column is kept, as text. -/
def computedMode : Reader String := do
  if ← key "STORED" then return " STORED"
  else if ← key "VIRTUAL" then return " VIRTUAL"
  else return ""

section

variable (r : Nested)

/-- The value of an option: a group in parentheses is the whole value. -/
def optionValue : Reader String := do
  if ← atMark "(" then return (← within .plain (operand r)).text else r.anyText

/-- What stands behind `GENERATED`. -/
def generatedRest : Reader (Option ColumnOption) := do
  if ← keys ["ALWAYS", "AS", "IDENTITY"] then some <$> identityRest "GENERATED ALWAYS AS IDENTITY"
  else if ← keys ["BY", "DEFAULT", "AS", "IDENTITY"] then
    some <$> identityRest "GENERATED BY DEFAULT AS IDENTITY"
  else if ← keys ["ALWAYS", "AS"] then
    if ← mark "(" then
      let e ← within .plain r.any
      expectMark ")"
      if (← flavor) == .postgres && !(← atKey "STORED") then expectedHere "STORED"
      else return some (.other ("GENERATED ALWAYS AS (" ++ e.text ++ ")" ++ (← computedMode)))
    else return none
  else return none

/-- Reads an option of a column. A word that starts an option of another flavor is taken all the
same, and the options listed behind it are still tried. -/
def columnOption? : Reader (Option ColumnOption) := within .column do
  let f ← flavor
  let text (s : String) : Reader (Option ColumnOption) := return some (.other s)
  if ← keys ["CHARACTER", "SET"] then text ("CHARACTER SET " ++ (← objectName))
  else if ← key "COLLATE" then text ("COLLATE " ++ (← objectName))
  else if ← keys ["NOT", "NULL"] then return some .notNull
  else if ← key "COMMENT" then return some (.comment (← commentText))
  else if ← key "NULL" then return some .null
  else if ← key "DEFAULT" then return some (.default (← optionValue r))
  else if ← keys ["PRIMARY", "KEY"] then text ("PRIMARY KEY" ++ (← timing))
  else if ← key "UNIQUE" then text ("UNIQUE" ++ (← timing))
  else if ← key "REFERENCES" then
    let target ← objectName
    let columns ← optionalColumnList
    let list := if columns.isEmpty then "" else " (" ++ ", ".intercalate columns ++ ")"
    text ("REFERENCES " ++ target ++ list ++ (← referenceRules))
  else if ← key "CHECK" then
    let e ← parens (within .plain r.any)
    text ("CHECK (" ++ e.text ++ ")")
  else if (← key "AUTO_INCREMENT") && f == .mysql then text "AUTO_INCREMENT"
  else if (← key "AUTOINCREMENT") && f == .sqlite then text "AUTOINCREMENT"
  else if (← key "ASC") && f == .sqlite then text "ASC"
  else if (← key "DESC") && f == .sqlite then text "DESC"
  else if (← keys ["ON", "UPDATE"]) && f == .mysql then text ("ON UPDATE " ++ (← optionValue r))
  else if ← key "GENERATED" then generatedRest r
  else if (← key "AS") && (f == .mysql || f == .sqlite) then
    let e ← parens r.any
    text ("AS (" ++ e.text ++ ")" ++ (← computedMode))
  else if (← key "SRID") && f == .mysql then text ("SRID " ++ (← optionValue r))
  else if (← key "IDENTITY") && f == .sqlServer then
    if ← mark "(" then
      let seed ← signedNumber
      expectMark ","
      let step ← signedNumber
      expectMark ")"
      text ("IDENTITY(" ++ seed ++ ", " ++ step ++ ")")
    else text "IDENTITY"
  else if ← keysIf (f == .sqlite) ["ON", "CONFLICT"] then
    text ("ON CONFLICT " ++ (← expectOneOf ["ROLLBACK", "ABORT", "FAIL", "IGNORE", "REPLACE"]))
  else if ← key "INVISIBLE" then text "INVISIBLE"
  else return none

/-- An option with the name that `CONSTRAINT` gives it. -/
def namedOption? : Reader (Option (Option Name × ColumnOption)) := do
  if ← key "CONSTRAINT" then
    let name ← identifier
    match ← columnOption? r with
    | some o => return some (some name, o)
    | none => expectedHere "constraint details after CONSTRAINT <name>"
  else
    match ← columnOption? r with
    | some o => return some (none, o)
    | none => return none

/-- SQLite may leave out the type of a column: it does when an option or no word follows. -/
def typeLeftOut : Reader Bool := do
  if (← flavor) != .sqlite then return false
  match (← peek).token with
  | .word _ _ k =>
    return ["CONSTRAINT", "PRIMARY", "NOT", "UNIQUE", "CHECK", "DEFAULT", "COLLATE", "REFERENCES",
      "GENERATED", "AS"].contains k
  | _ => return true

/-- A column: its name, its type and its options. -/
def columnDefinition : Reader ColumnDefinition := do
  let name ← identifier
  let type ← if ← typeLeftOut then pure "" else TypeText.text <$> typeName r
  let options ← repeated (namedOption? r)
  return ⟨name, type, options⟩

end

end SchemaChart.Grammar
