-- Constraints and indexes among the elements of a table.
import SchemaChart.Reading.Reference

namespace SchemaChart.Reading

open Text
open Schema (Fact)

/-- An index among the elements of a table, up to its columns. -/
def inlineIndex : Pattern :=
  open Pattern in
  textStart ++ opt (group "kind" (oneOf ["FULLTEXT", "SPATIAL"]) ++ blanks)
    ++ oneOf ["KEY", "INDEX"] ++ gap ++ opt (identifier ++ gap)
    ++ opt (phrase "USING " ++ some1 isWordChar ++ gap) ++ lit "("

/-- A constraint with a name, and all behind the name. -/
def namedConstraint : Pattern :=
  open Pattern in
  textStart ++ gap ++ phrase "CONSTRAINT " ++ group "name" identifier ++ blanks
    ++ group "rest" rest ++ textEnd

/-- Does a text start with a word, alone or before a parenthesis. -/
def startsWithWord (cs : List Char) (word : String) : Bool :=
  match dropHead? word.toList cs with
  | some rest => rest.head?.all (fun c => isBlank c || c == '(')
  | none => false

/-- Is an element of a table a constraint or an index rather than a column. -/
def isConstraint (cs : List Char) : Bool :=
  let u := upper (trimStart cs)
  ["CONSTRAINT", "PRIMARY", "FOREIGN", "CHECK", "EXCLUDE"].any (startsWithWord u ·)
    || (startsWithWord u "UNIQUE" && cs.contains '(')
    || inlineIndex.occursIn (trimStart cs)

/-- The first word that is none of the given key words. -/
def firstNameBut (keys : List String) (ws : List (List Char)) : Option String :=
  (ws.find? (fun w => !keys.contains (String.ofList (upper w)))).map
    (fun w => String.ofList (unquoteIdentifier w))

/-- A primary key. -/
def primaryKey? (name : Option String) (body : List Char) : Option Fact :=
  (firstGroup? body).map (fun (_, inside, _) => .primaryKey name (keyColumns inside))

/-- A unique key; its name may stand before the columns. -/
def unique? (name : Option String) (body : List Char) : Option Fact :=
  (firstGroup? body).map (fun (before, inside, _) =>
    let own := firstNameBut ["KEY", "INDEX", "CLUSTERED", "NONCLUSTERED", "NULLS", "NOT",
      "DISTINCT"]
      ((words before).drop 1)
    .unique (name <|> own) (keyColumns inside))

/-- A foreign key. -/
def foreignKey? (name : Option String) (body : List Char) : Option Fact := do
  let (_, inside, after) ← firstGroup? body
  let r ← reference? after
  return r.fact name (keyColumns inside)

/-- The method behind `USING`. -/
def methodBehind? (cs : List Char) : Option String :=
  (((words (lower cs)).dropWhile (· != "using".toList))[1]?).map String.ofList

/-- An index among the elements of a table. -/
def index? (body : List Char) : Option Fact := do
  let f ← inlineIndex.find? body
  let (before, inside, after) ← firstGroup? body
  let name := firstNameBut ["KEY", "INDEX", "FULLTEXT", "SPATIAL", "USING", "BTREE", "HASH"]
    (words before)
  let kind := (f.group? "kind").map (fun k => String.ofList (lower k))
  return .index (name.getD "") (keyColumns inside) false (kind <|> methodBehind? after)

/-- Reads a constraint or an index. Constraints that say nothing about keys give nothing. -/
def constraint? (cs : List Char) : Option Fact :=
  let (name, body) := match namedConstraint.find? cs with
    | some f => (some (String.ofList (unquoteIdentifier (f.group "name"))), f.group "rest")
    | none => (none, trim cs)
  let u := upper body
  if startsWith u "PRIMARY" then primaryKey? name body
  else if startsWith u "UNIQUE" then unique? name body
  else if startsWith u "FOREIGN" then foreignKey? name body
  else index? body

end SchemaChart.Reading
