-- What the strict grammar declares. Options and constraints come as text, and are read as they
-- are everywhere else.
import SchemaChart.Grammar.Statement
import SchemaChart.Reading.Table

namespace SchemaChart.Import

open Text
open Grammar (ColumnDefinition ColumnOption IndexDefinition TableDefinition readStatement)
open Schema (Column Fact Index Table TableRef Writing)
open Schema.Writing (addTable refuse)

/-- Why the grammar refuses a text, as it is told. -/
def refusal (message : String) : String := "sql parser error: " ++ message

/-- The one statement of a text. -/
def oneStatement (s : Source) (cs : List Char) : Except String Grammar.Statement :=
  match readStatement s.flavor (String.ofList cs) with
  | .ok st => .ok st
  | .error e => .error (refusal e.message)

/-! ## Tables -/

/-- Applies one option to a column; foreign keys are gathered beside it. -/
def optionStep (acc : Column × List Fact) (option : Option Grammar.Name × ColumnOption) :
    Column × List Fact :=
  let (c, facts) := acc
  match option.2 with
  | .notNull => ({ c with nullable := false }, facts)
  | .null => ({ c with nullable := true }, facts)
  | .default e => ({ c with default := some e }, facts)
  | .comment text => ({ c with comment := some text }, facts)
  | .other text =>
    let (c, fact) := Reading.applyOption c (option.1.map (·.value)) text.toList
    (c, facts ++ fact.toList)

/-- The column of a definition, and the foreign keys in its options. -/
def column (d : ColumnDefinition) : Column × List Fact :=
  let start : Column := { name := d.name.value, type := d.type }
  let (c, facts) := d.options.foldl optionStep (start, [])
  (Source.settle c, facts)

/-- The text behind the first group of a statement. -/
def behindGroup (cs : List Char) : List Char :=
  ((firstGroup? cs).map (fun (_, _, after) => after)).getD []

/-- The table of a definition in the text `cs`. -/
def tableOf (d : TableDefinition) (cs : List Char) : Table :=
  let r := TableRef.parse d.name.toList
  { name := r.name, schema := r.schema, columns := d.columns.map fun c => (column c).1,
    comment := Reading.tableComment? (behindGroup cs) }

/-- The facts about the table of a definition: the foreign keys of its columns, and its
constraints. -/
def factsOf (d : TableDefinition) : List Fact :=
  (d.columns.flatMap fun c => (column c).2)
    ++ d.constraints.filterMap (Reading.constraint? ·.toList)

/-- Reads a table definition by the strict grammar, and takes the table and the facts about it into
the schema. -/
def strictTable (s : Source) (cs : List Char) : Writing String Unit := do
  let .table d ← oneStatement s cs | refuse (refusal "statement is not a CREATE TABLE")
  if d.columns.isEmpty then refuse (refusal ("CREATE TABLE " ++ d.name ++ " declares no columns"))
  let i ← addTable (tableOf d cs)
  for fact in factsOf d do modify (·.apply i fact)

/-! ## Indexes -/

/-- The columns of an index, or the first expression among them. -/
def indexColumns (keys : List String) : Except String (List String) :=
  let columns := (splitIdentifiers (", ".intercalate keys).toList).map String.ofList
  match columns.find? (·.contains '(') with
  | some e => .error e
  | none => .ok columns

/-- The index of a definition, over these columns. -/
def indexOf (d : IndexDefinition) (columns : List String) : Index :=
  { name := (d.name.map (fun n => (TableRef.parse n.toList).name)).getD ""
    columns := columns
    unique := d.unique
    method := d.method.map (fun m => String.ofList (lower m.toList)) }

/-- Reads an index definition by the strict grammar, and adds the index to its table. -/
def strictIndex (s : Source) (cs : List Char) : Writing String Unit := do
  let .index d ← oneStatement s cs | refuse (refusal "statement is not a CREATE INDEX")
  match indexColumns d.keys with
  | .error e =>
    refuse (refusal ("expression index on " ++ d.table ++ " (" ++ e ++ ") is not supported"))
  | .ok columns =>
    modify (·.addIndexTo (TableRef.parse d.table.toList) (indexOf d columns))

end SchemaChart.Import
