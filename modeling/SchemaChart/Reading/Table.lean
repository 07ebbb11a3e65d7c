-- Table definitions, read element by element.
import SchemaChart.Reading.Column
import SchemaChart.Schema.Writing

namespace SchemaChart.Reading

open Text
open Schema (Builder Column Fact TableRef Writing)
open Schema.Writing (addTable refuse)

/-- A table definition up to its elements. -/
def tableHead : Pattern :=
  open Pattern in
  textStart ++ gap ++ phrase "CREATE " ++ opt (phrase "OR REPLACE ")
    ++ opt (oneOf ["GLOBAL", "LOCAL"] ++ blanks)
    ++ opt (oneOf ["TEMP", "TEMPORARY", "UNLOGGED"] ++ blanks)
    ++ phrase "TABLE " ++ opt (phrase "IF NOT EXISTS ") ++ group "name" qualifiedName ++ gap
    ++ lit "("

/-- A comment among the options of a table. -/
def commentOption : Pattern :=
  open Pattern in
  edge ++ phrase "COMMENT" ++ gap ++ opt (lit "=") ++ gap ++ group "value" quotedText

/-- The comment of a table, from its options. -/
def tableComment? (cs : List Char) : Option String :=
  (commentOption.find? cs).bind (fun f => (unquoteLiteral? (f.group "value")).map String.ofList)

/-- The elements of a table, sorted into columns, facts and what could not be read. -/
structure Elements where
  columns : List Column := []
  facts : List Fact := []
  unread : List String := []
deriving Repr, DecidableEq

/-- Reads one element of a table. -/
def Elements.add (s : Source) (e : Elements) (cs : List Char) : Elements :=
  if isConstraint cs then { e with facts := e.facts ++ (constraint? cs).toList }
  else
    match column? s cs with
    | some (c, facts) => { e with columns := e.columns ++ [c], facts := e.facts ++ facts }
    | none => { e with unread := e.unread ++ [String.ofList cs] }

/-- Reads a table definition, and takes the table and the facts about it into the schema. -/
def table (s : Source) (cs : List Char) : Writing String Unit := do
  let some f := tableHead.find? cs | refuse "unrecognized CREATE TABLE syntax"
  let r := TableRef.parse (f.group "name")
  let some (inside, after) := splitGroup? f.after
    | refuse ("unbalanced parentheses in CREATE TABLE " ++ r.display)
  let e := (splitTopLevel ',' inside).foldl (Elements.add s) {}
  if e.columns.isEmpty then refuse ("no columns found in CREATE TABLE " ++ r.display)
  let i ← addTable
    { name := r.name, schema := r.schema, columns := e.columns, comment := tableComment? after }
  for element in e.unread do modify (Builder.warnUnread r · element)
  for fact in e.facts do modify (·.apply i fact)

end SchemaChart.Reading
