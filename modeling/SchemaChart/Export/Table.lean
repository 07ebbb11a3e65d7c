-- Tables in scripts: where the primary key stands, the statement that creates a table, and those
-- that create its indexes.
import SchemaChart.Export.Column

namespace SchemaChart.Export

open Diagram (Field Index Table)

/-! ## Sorted names -/

/-- Strings in order, none of them twice. -/
def sorted (ss : List String) : List String :=
  (ss.mergeSort (fun a b => !decide (b < a))).eraseReps

/-! ## Primary keys -/

/-- Where the primary key of a table stands. -/
inductive KeyLayout where
  | none
  /-- In the line of its column. -/
  | inline (field : Field)
  /-- In a line of its own, maybe with a name. -/
  | ownLine (name : Option String) (fields : List Field)
deriving Repr, DecidableEq

/-- The fields of an index, in its order. -/
def indexedFields (t : Table) (i : Index) : List Field := i.fieldIds.filterMap t.fieldById?

namespace KeyLayout

/-- The columns of the primary key: those of its index, or else those that are marked. -/
def keyFields (t : Table) : List Field :=
  match t.primaryKeyIndex?.elim [] (indexedFields t) with
  | [] => t.primaryKeyFields
  | fs => fs

/-- The name of the primary key. -/
def keyName? (t : Table) : Option String :=
  (t.primaryKeyIndex?.map (·.name)).filter (!·.isEmpty)

/-- The layout for a table. The key stands in the line of its column only if it has one column
and no name, and if that is allowed. -/
def ofTable (t : Table) (allowInline : Bool) : KeyLayout :=
  match keyFields t, keyName? t with
  | [], _ => none
  | [f], .none => if allowInline then inline f else ownLine .none [f]
  | fs, name => ownLine name fs

/-- Does the key stand in the line of this field. -/
def isInline (l : KeyLayout) (f : Field) : Bool :=
  match l with
  | inline g => g.id == f.id
  | _ => false

/-- The identifiers of the columns, in order and none twice. -/
def fieldIds : KeyLayout → List String
  | none => []
  | inline f => [f.id]
  | ownLine _ fs => sorted (fs.map (·.id))

/-- The line of the key, if it has one of its own. -/
def line? (q : Quoting) : KeyLayout → Option String
  | ownLine name fs =>
    let key := "PRIMARY KEY (" ++ q.columns (fs.map (·.name)) ++ ")"
    match name with
    | some n => some ("CONSTRAINT " ++ q.ident n ++ " " ++ key)
    | .none => some key
  | _ => .none

end KeyLayout

/-! ## Creating tables -/

namespace Style

/-- The lines of a table: its columns, and the primary key if it has a line of its own. -/
def tableLines (s : Style) (t : Table) (allowInline : Bool) : List String :=
  let layout := KeyLayout.ofTable t allowInline
  t.fields.map (fun f => s.column f (layout.isInline f)) ++ (layout.line? s.quoting).toList

/-- The statement that creates a table, up to its closing parenthesis. -/
def createTable (s : Style) (t : Table) (lines : List String) : String :=
  "CREATE TABLE " ++ s.quoting.table t ++ " (\n  " ++ ",\n  ".intercalate lines ++ "\n)"

/-! ## Creating indexes -/

/-- How many columns an index of SQL Server may have. -/
def maxIndexColumns : Nat := 32

/-- The length of the prefix by which MySQL indexes long columns. -/
def longPrefixLength : Nat := 255

/-- The name of an index, made of its table and its columns if it has none. -/
def indexName (t : Table) (i : Index) (fields : List Field) : String :=
  if i.name.isEmpty then "idx_" ++ t.name ++ "_" ++ "_".intercalate (fields.map (·.name))
    else i.name

/-- A column of an index. -/
def indexColumn (s : Style) (f : Field) : String :=
  let name := s.quoting.ident f.name
  if s.dialect.isMysqlFamily && isLongType (s.columnType f) then
    name ++ "(" ++ toString longPrefixLength ++ ")"
  else name

/-- The statement that creates an index over these fields. -/
def createIndex (s : Style) (t : Table) (i : Index) (name : String) (fields : List Field) :
    String :=
  let method := if s.isPostgresql then i.method.elim "" (" USING " ++ ·) else ""
  "CREATE " ++ (if i.unique then "UNIQUE " else "") ++ "INDEX " ++ s.quoting.ident name ++ " ON "
    ++ s.quoting.table t ++ method ++ " (" ++ ", ".intercalate (fields.map s.indexColumn) ++ ");"

/-- The statements of one index, with a remark if columns are left out; none if it has no columns
or those of the primary key. -/
def indexStatements (s : Style) (t : Table) (i : Index) : List String :=
  let fields := indexedFields t i
  if fields.isEmpty || sorted (fields.map (·.id)) == (KeyLayout.ofTable t false).fieldIds then []
  else
    let name := indexName t i fields
    if s.dialect == .sqlServer && fields.length > maxIndexColumns then
      [ "-- Warning: index " ++ name ++ " has " ++ toString fields.length
          ++ " columns; SQL Server allows " ++ toString maxIndexColumns
            ++ ", the rest were dropped",
        s.createIndex t i name (fields.take maxIndexColumns) ]
    else [ s.createIndex t i name fields ]

/-- The statements of all indexes but the primary key. -/
def tableIndexes (s : Style) (t : Table) : List String :=
  (t.indexes.filter (!·.isPrimaryKey)).flatMap (s.indexStatements t)

end Style

end SchemaChart.Export
