-- The schema under construction. Statements add tables, types and facts; foreign keys wait until
-- every table and every primary key is known.
import SchemaChart.Dialect
import SchemaChart.Schema.Fact

namespace SchemaChart.Schema

open Text

/-- A foreign key that waits for its tables. No target columns stand for the primary key of the
target. -/
structure PendingKey where
  name : String
  source : TableRef
  sourceColumns : List String
  target : TableRef
  targetColumns : List String
  onUpdate : Option String
  onDelete : Option String
deriving Repr, DecidableEq, Inhabited

/-- A schema under construction. -/
structure Builder where
  dialect : Dialect
  tables : List Table := []
  types : List CustomType := []
  relationships : List ForeignKey := []
  pending : List PendingKey := []
  warnings : List String := []
deriving Repr, DecidableEq

namespace Builder

def warn (b : Builder) (message : String) : Builder :=
  { b with warnings := b.warnings ++ [message] }

/-- Changes the table at a position. -/
def modifyTable (b : Builder) (i : Nat) (f : Table → Table) : Builder :=
  { b with tables := b.tables.modify i f }

/-! ## Finding tables -/

/-- The schema that a written or missing schema stands for. -/
def effectiveSchema (b : Builder) (s : Option String) : Option String :=
  s <|> b.dialect.defaultSchema?

/-- Do two written or missing schemas stand for the same one, up to case. -/
def sameSchema (b : Builder) (s t : Option String) : Bool :=
  match b.effectiveSchema s, b.effectiveSchema t with
  | some s, some t => sameName s t
  | none, none => true
  | _, _ => false

/-- The position of the table that a reference names together with its schema; an exact name
comes before a name up to case. -/
def lookupExact? (b : Builder) (r : TableRef) : Option Nat :=
  b.tables.findIdx? (fun t => t.name == r.name && b.sameSchema t.schema r.schema)
    <|> b.tables.findIdx? (fun t => sameName t.name r.name && b.sameSchema t.schema r.schema)

/-- The position of a table of this name in any schema. -/
def lookupName? (b : Builder) (name : String) : Option Nat :=
  positionByName? Table.name name b.tables

/-- The table that a reference means. A table of the same name in another schema will do, with a
warning. -/
def resolve (b : Builder) (r : TableRef) : Option Nat × Builder :=
  match b.lookupExact? r with
  | some i => (some i, b)
  | none =>
    match b.lookupName? r.name with
    | none => (none, b)
    | some i =>
      let found := ((b.tables[i]?).bind (·.schema)).getD ""
      (some i, b.warn ("Table " ++ r.display ++ " not found in its schema, matched " ++ found
        ++ "." ++ r.name ++ " by name only"))

/-! ## Tables and types -/

/-- Adds a table and tells its position. A table that is there already stays as it is. -/
def addTable (b : Builder) (t : Table) : Nat × Builder :=
  match b.lookupExact? t.ref with
  | some i =>
    (i, b.warn ("Table " ++ t.ref.display
      ++ " defined more than once, keeping the first definition"))
  | none =>
    let n := b.tables.length
    (n, { b with tables := b.tables ++ [{ t with id := "t" ++ toString n, order := n }] })

/-- Warns about an element of a table that could not be read. -/
def warnUnread (r : TableRef) (b : Builder) (element : String) : Builder :=
  b.warn ("Could not read column definition '" ++ element ++ "' in " ++ r.display)

/-- Adds a type. A type that is there already stays as it is. -/
def addType (b : Builder) (t : CustomType) : Builder :=
  if b.types.any (fun u => sameName u.name t.name && b.sameSchema u.schema t.schema) then
    b.warn ("Type " ++ t.name ++ " defined more than once")
  else { b with types := b.types ++ [t] }

/-! ## Indexes and keys -/

/-- Adds an index to the table at a position. It is left out if it names an unknown column, with
a warning, or if the table has one like it. -/
def addIndex (b : Builder) (i : Nat) (index : Index) : Builder :=
  match b.tables[i]? with
  | none => b
  | some t =>
    match index.columns.find? (fun c => (t.column? c).isNone) with
    | some missing =>
      b.warn ("Index " ++ index.name ++ " on " ++ t.name ++ " references unknown column "
        ++ missing ++ ", skipped")
    | none =>
      if t.indexes.any (fun j => j.unique == index.unique && j.covers index.columns) then b
      else b.modifyTable i (fun t => { t with indexes := t.indexes ++ [index] })

/-- Adds an index to the table that a reference means. -/
def addIndexTo (b : Builder) (r : TableRef) (index : Index) : Builder :=
  match b.resolve r with
  | (some i, b) => b.addIndex i index
  | (none, b) =>
    b.warn ("Index " ++ index.name ++ " references unknown table " ++ r.display ++ ", skipped")

/-- Marks a column as part of the primary key. -/
def keyColumn (c : Column) : Column := { c with primaryKey := true, nullable := false }

/-- The index of a primary key; a single column without a name needs none. -/
def primaryKeyIndex? (name : Option String) (columns : List String) : Option Index :=
  let name := name.getD ""
  if !name.isEmpty || columns.length > 1 then
    some { name := name, columns := columns, unique := true, isPrimaryKey := true }
  else none

/-- A table with these columns as its primary key, in place of the one it had. -/
def withPrimaryKey (name : Option String) (columns : List String) (t : Table) : Table :=
  let marked := columns.foldl (fun t c => t.modifyColumn c keyColumn) t
  { marked with
    indexes := t.indexes.filter (!·.isPrimaryKey) ++ (primaryKeyIndex? name columns).toList }

/-- Gives the table at a position its primary key, with a warning for each unknown column. -/
def setPrimaryKey (b : Builder) (i : Nat) (name : Option String) (columns : List String) :
    Builder :=
  match b.tables[i]? with
  | none => b
  | some t =>
    (columns.filter (fun c => (t.column? c).isNone)).foldl
      (fun b c => b.warn ("Primary key column " ++ c ++ " not found in table " ++ t.name))
      (b.modifyTable i (withPrimaryKey name columns))

/-- Makes columns of the table at a position unique: a single known column is marked, and all
else becomes an index. -/
def addUnique (b : Builder) (i : Nat) (name : Option String) (columns : List String) : Builder :=
  let asIndex := b.addIndex i { name := name.getD "", columns := columns, unique := true }
  match columns with
  | [c] =>
    match (b.tables[i]?).bind (·.column? c) with
    | some _ => b.modifyTable i (·.modifyColumn c (fun c => { c with unique := true }))
    | none => asIndex
  | _ => asIndex

/-- Puts a foreign key in line. -/
def queueKey (b : Builder) (k : PendingKey) : Builder := { b with pending := b.pending ++ [k] }

/-- The name of a foreign key that has none of its own. -/
def foreignKeyName (table : String) (columns : List String) : String :=
  "fk_" ++ table ++ "_" ++ "_".intercalate columns

/-- Applies a fact to the table at a position. -/
def apply (b : Builder) (i : Nat) (fact : Fact) : Builder :=
  match b.tables[i]? with
  | none => b
  | some t =>
    match fact with
    | .primaryKey name columns => b.setPrimaryKey i name columns
    | .unique name columns => b.addUnique i name columns
    | .index name columns unique method =>
      b.addIndex i { name := name, columns := columns, unique := unique, method := method }
    | .foreignKey name columns target targetColumns onUpdate onDelete =>
      b.queueKey
        ⟨name.getD (foreignKeyName t.name columns), t.ref, columns, target, targetColumns,
          onUpdate, onDelete⟩

/-- Applies facts in order. -/
def applyAll (b : Builder) (i : Nat) (facts : List Fact) : Builder :=
  facts.foldl (fun b f => b.apply i f) b

/-! ## Columns and comments -/

/-- Adds a column. A column that is there already stays as it is. -/
def addColumn (b : Builder) (i : Nat) (column : Column) : Builder :=
  match b.tables[i]? with
  | none => b
  | some t =>
    match t.column? column.name with
    | some _ => b.warn ("Column " ++ column.name ++ " already exists on " ++ t.name)
    | none => b.modifyTable i (fun t => { t with columns := t.columns ++ [column] })

/-- A column in place of another, whose key marks it keeps. -/
def replaceColumn (new old : Column) : Column :=
  let primaryKey := new.primaryKey || old.primaryKey
  { new with
    primaryKey := primaryKey
    unique := new.unique || old.unique
    nullable := new.nullable && !primaryKey }

/-- Replaces the column of the same name, or adds the column if there is none. -/
def modifyColumn (b : Builder) (i : Nat) (column : Column) : Builder :=
  b.modifyTable i (fun t =>
    match t.column? column.name with
    | some _ => t.modifyColumn column.name (replaceColumn column)
    | none => { t with columns := t.columns ++ [column] })

/-- Changes a column of the table at a position, with a warning if it is unknown. -/
def onColumn (b : Builder) (i : Nat) (column purpose : String) (f : Column → Column) : Builder :=
  match b.tables[i]? with
  | none => b
  | some t =>
    match t.column? column with
    | some _ => b.modifyTable i (·.modifyColumn column f)
    | none => b.warn ("Column " ++ column ++ " not found on " ++ t.name ++ " for " ++ purpose)

/-- Gives a column a default; one that takes values of a sequence makes it increment. -/
def setDefault (b : Builder) (i : Nat) (column value : String) : Builder :=
  b.onColumn i column "default" (fun c =>
    { c with default := some value, increment := c.increment || isSequenceDefault value })

def setNotNull (b : Builder) (i : Nat) (column : String) : Builder :=
  b.modifyTable i (·.modifyColumn column (fun c => { c with nullable := false }))

def setTableComment (b : Builder) (i : Nat) (comment : Option String) : Builder :=
  b.modifyTable i (fun t => { t with comment := comment })

def setColumnComment (b : Builder) (i : Nat) (column : String) (comment : Option String) :
    Builder :=
  b.onColumn i column "comment" (fun c => { c with comment := comment })

/-! ## Alterations -/

/-- Makes one change to the table at a position. -/
def alterAt (b : Builder) (i : Nat) : Alteration → Builder
  | .addConstraint fact => b.apply i fact
  | .addColumn column facts => (b.addColumn i column).applyAll i facts
  | .modifyColumn column => b.modifyColumn i column
  | .setDefault column value => b.setDefault i column value
  | .setNotNull column => b.setNotNull i column

/-- Makes one change to the table that a reference means. -/
def alter (b : Builder) (r : TableRef) (a : Alteration) : Builder :=
  match b.resolve r with
  | (some i, b) => b.alterAt i a
  | (none, b) => b.warn ("ALTER TABLE references unknown table " ++ r.display ++ ", skipped")

/-! ## Finishing -/

/-- Do two foreign keys join the same columns of the same tables, up to case. -/
def sameLink (a b : ForeignKey) : Bool :=
  a.sourceTableId == b.sourceTableId && a.targetTableId == b.targetTableId
    && sameName a.sourceColumn b.sourceColumn && sameName a.targetColumn b.targetColumn

/-- Adds a foreign key unless one like it is there. -/
def addLink (links : List ForeignKey) (k : ForeignKey) : List ForeignKey :=
  if links.any (sameLink · k) then links else links ++ [k]

/-- The foreign keys, one for each pair of columns, that a pending key makes. -/
def linksOf (k : PendingKey) (source target : Table) (targetColumns : List String) :
    List ForeignKey :=
  (k.sourceColumns.zip targetColumns).map (fun (s, t) =>
    { name := k.name
      sourceTable := source.name
      sourceSchema := source.schema
      sourceTableId := source.id
      sourceColumn := s
      targetTable := target.name
      targetSchema := target.schema
      targetTableId := target.id
      targetColumn := t
      updateAction := k.onUpdate
      deleteAction := k.onDelete })

/-- The two tables of a pending key, if both are known. -/
def ends? (b : Builder) (k : PendingKey) : Option (Table × Table) := do
  let source ← b.tables[← b.lookupExact? k.source]?
  let target ← b.tables[← b.lookupExact? k.target]?
  return (source, target)

/-- Makes the foreign keys of a pending key whose tables are known. Key and target must have as
many columns; otherwise there is a warning. -/
def link (b : Builder) (k : PendingKey) (source target : Table) : Builder :=
  let targetColumns :=
    if k.targetColumns.isEmpty then target.primaryKeyColumns else k.targetColumns
  if targetColumns.length != k.sourceColumns.length then
    b.warn ("Foreign key " ++ k.name ++ " on " ++ k.source.display ++ " has "
      ++ toString k.sourceColumns.length ++ " column(s) but references "
      ++ toString targetColumns.length ++ " column(s), skipped")
  else
    let links := linksOf k source target targetColumns
    { b with relationships := links.foldl addLink b.relationships }

/-- Makes the foreign keys of the pending keys whose tables are known, in order. -/
def linkAll (b : Builder) : Builder :=
  b.pending.foldl (fun b k =>
    match b.ends? k with
    | some (source, target) => b.link k source target
    | none => b) b

/-- Warns about a pending key one of whose tables never came. -/
def warnDropped (b : Builder) (k : PendingKey) : Builder :=
  let missing := if (b.lookupExact? k.source).isNone then k.source else k.target
  b.warn ("Foreign key " ++ k.name ++ " dropped: table " ++ missing.display
    ++ " was never defined")

/-- The finished schema. -/
def finish (b : Builder) : Schema :=
  let linked := b.linkAll
  let done := (b.pending.filter (fun k => (b.ends? k).isNone)).foldl warnDropped linked
  { tables := done.tables
    relationships := done.relationships
    types := done.types
    warnings := done.warnings }

end Builder

end SchemaChart.Schema
