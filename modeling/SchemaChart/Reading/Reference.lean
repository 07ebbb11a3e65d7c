-- References to other tables, and the columns of keys.
import SchemaChart.Schema.Fact
import SchemaChart.Text.Pattern

namespace SchemaChart.Reading

open Text
open Schema (TableRef Fact)

/-! ## Key columns -/

/-- A column with the length of the part that is indexed. -/
def prefixedColumn : Pattern :=
  open Pattern in
  textStart ++ group "column" (one (· != '\n') ++ run false (· != '\n')) ++ gap ++ lit "(" ++ gap
    ++ some1 isDecimal ++ gap ++ lit ")" ++ textEnd

/-- The columns of a key, unquoted, without sort order and without lengths. -/
def keyColumns (cs : List Char) : List String :=
  (splitIdentifiers cs).map (fun c =>
    match prefixedColumn.find? c with
    | some f => String.ofList (unquoteIdentifier (f.group "column"))
    | none => String.ofList c)

/-! ## References -/

/-- What a reference clause says: the target, its columns, and what follows a change there. -/
structure Reference where
  target : TableRef
  columns : List String
  onUpdate : Option String
  onDelete : Option String
deriving Repr, DecidableEq, Inhabited

/-- The foreign key of these columns. -/
def Reference.fact (r : Reference) (name : Option String) (columns : List String) : Fact :=
  .foreignKey name columns r.target r.columns r.onUpdate r.onDelete

/-- A reference clause: table, columns, and all behind them. -/
def referenceClause : Pattern :=
  open Pattern in
  edge ++ phrase "REFERENCES " ++ group "table" qualifiedName ++ gap
    ++ opt (lit "(" ++ group "columns" (run true (· != ')')) ++ lit ")")
    ++ group "tail" rest ++ textEnd

/-- What is done when a row of the target goes or changes. -/
def actionClause (event : String) : Pattern :=
  open Pattern in
  edge ++ phrase ("ON " ++ event ++ " ")
    ++ group "action" (oneOf ["CASCADE", "RESTRICT", "NO ACTION", "SET NULL", "SET DEFAULT"])

/-- The action of a clause, in capitals and with single spaces. -/
def action? (event : String) (cs : List Char) : Option String :=
  ((actionClause event).find? cs).map (fun f => String.ofList (upper (collapse (f.group "action"))))

/-- Reads the first reference clause of a text. -/
def reference? (cs : List Char) : Option Reference :=
  (referenceClause.find? cs).map (fun f =>
    let tail := f.group "tail"
    { target := TableRef.parse (f.group "table")
      columns := ((f.group? "columns").map keyColumns).getD []
      onUpdate := action? "UPDATE" tail
      onDelete := action? "DELETE" tail })

end SchemaChart.Reading
