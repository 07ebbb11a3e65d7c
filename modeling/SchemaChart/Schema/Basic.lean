-- The schema that a script declares: tables with columns and indexes, foreign keys, and types.
import SchemaChart.Schema.TypeText
import SchemaChart.Text.Identifier

namespace SchemaChart.Schema

open Text

/-! ## Columns, indexes, tables -/

/-- Does a default take the next value of a sequence. -/
def isSequenceDefault (s : String) : Bool := holds (lower s.toList) "nextval("

/-- A declared column. The type is kept as written. -/
structure Column where
  name : String
  type : String
  nullable : Bool := true
  primaryKey : Bool := false
  unique : Bool := false
  typeArgs : Option SizeArgs := none
  default : Option String := none
  comment : Option String := none
  collation : Option String := none
  increment : Bool := false
  /-- What every update of a row sets the column to. -/
  onUpdate : Option String := none
deriving Repr, DecidableEq, Inhabited

/-- A declared index; the name is empty if none was given. -/
structure Index where
  name : String
  columns : List String
  unique : Bool
  method : Option String := none
  isPrimaryKey : Bool := false
deriving Repr, DecidableEq, Inhabited

/-- Does an index have these columns in this order, up to case. -/
def Index.covers (i : Index) (columns : List String) : Bool :=
  i.columns.length == columns.length
    && (i.columns.zip columns).all (fun (a, b) => sameName a b)

/-- A declared table or view. -/
structure Table where
  id : String := ""
  name : String
  schema : Option String
  columns : List Column := []
  indexes : List Index := []
  comment : Option String := none
  isView : Bool := false
  isMaterializedView : Bool := false
  order : Nat := 0
deriving Repr, DecidableEq, Inhabited

/-- The position of the first item whose name is exactly `name`, or else the first whose name is
`name` up to case. -/
def positionByName? (nameOf : α → String) (name : String) (items : List α) : Option Nat :=
  items.findIdx? (nameOf · == name) <|> items.findIdx? (fun x => sameName (nameOf x) name)

namespace Table

/-- The position of a column. -/
def position? (t : Table) (name : String) : Option Nat :=
  positionByName? Column.name name t.columns

/-- The column of a name. -/
def column? (t : Table) (name : String) : Option Column :=
  (t.position? name).bind (t.columns[·]?)

/-- Changes the column of a name, if there is one. -/
def modifyColumn (t : Table) (name : String) (f : Column → Column) : Table :=
  match t.position? name with
  | some i => { t with columns := t.columns.modify i f }
  | none => t

/-- The columns of the primary key: those of its index, or else those that are marked. -/
def primaryKeyColumns (t : Table) : List String :=
  match t.indexes.find? (·.isPrimaryKey) with
  | some i => i.columns
  | none => (t.columns.filter (·.primaryKey)).map (·.name)

end Table

/-! ## Foreign keys, types, schemas -/

/-- One pair of columns of a foreign key: the source holds the reference to the target. -/
structure ForeignKey where
  name : String
  sourceTable : String
  sourceSchema : Option String
  sourceTableId : String
  sourceColumn : String
  targetTable : String
  targetSchema : Option String
  targetTableId : String
  targetColumn : String
  updateAction : Option String
  deleteAction : Option String
deriving Repr, DecidableEq, Inhabited

/-- The kinds of declared types. -/
inductive TypeKind where
  | enum
  | composite
deriving Repr, DecidableEq, Inhabited

/-- A declared type: the labels of an enumeration, or the fields of a composite with their
types. -/
structure CustomType where
  name : String
  schema : Option String
  kind : TypeKind
  values : List String := []
  fields : List (String × String) := []
deriving Repr, DecidableEq, Inhabited

end SchemaChart.Schema

namespace SchemaChart

/-- All that a script declares, and what was to be said about it. -/
structure Schema where
  tables : List Schema.Table := []
  relationships : List Schema.ForeignKey := []
  types : List Schema.CustomType := []
  warnings : List String := []
deriving Repr, DecidableEq, Inhabited

end SchemaChart

namespace SchemaChart.Schema

open Text

/-! ## References to tables -/

/-- A table as scripts refer to it. -/
structure TableRef where
  name : String
  schema : Option String
deriving Repr, DecidableEq, Inhabited

namespace TableRef

/-- Reads `table`, `schema.table` or `database.schema.table`. -/
def parse (cs : List Char) : TableRef :=
  match (splitQualified cs).reverse with
  | [] => ⟨"", none⟩
  | name :: outer => ⟨String.ofList name, outer.head?.map String.ofList⟩

/-- The reference for messages. -/
def display (r : TableRef) : String :=
  match r.schema with
  | some s => s ++ "." ++ r.name
  | none => r.name

end TableRef

/-- The reference that names a table. -/
def Table.ref (t : Table) : TableRef := ⟨t.name, t.schema⟩

end SchemaChart.Schema
