-- Checks of a diagram: names that occur twice, and indexes and relationships that point nowhere.
import SchemaChart.Diagram.Basic

namespace SchemaChart.Diagram

open Text

/-! ## Names that occur twice -/

/-- Two tables of one name. -/
structure NamingConflict where
  tableId : String
  tableName : String
  existingTableId : String
  existingTableName : String
deriving Repr, DecidableEq

/-- What two tables must not share: schema and name in lower case. -/
def Table.nameKey (t : Table) : List Char × List Char :=
  (lower (t.schema.getD "").toList, lower t.name.toList)

/-- The tables that share their name with an earlier one; `seen` are the first tables of their
names so far. -/
def conflictsFrom (seen : List Table) : List Table → List NamingConflict
  | [] => []
  | t :: ts =>
    match seen.find? (·.nameKey == t.nameKey) with
    | some s => ⟨t.id, t.name, s.id, s.name⟩ :: conflictsFrom seen ts
    | none => conflictsFrom (seen ++ [t]) ts

/-- Every table that shares its name with an earlier one, and the first of that name. -/
def namingConflicts (tables : List Table) : List NamingConflict := conflictsFrom [] tables

/-- The names that occur among earlier ones or in `seen`, in lower case. -/
def repeatedFrom (seen : List (List Char)) : List String → List String
  | [] => []
  | n :: ns =>
    let key := lower n.toList
    if seen.contains key then n :: repeatedFrom seen ns else repeatedFrom (key :: seen) ns

/-- The names of fields that share them with an earlier field. -/
def Table.duplicateFields (t : Table) : List String := repeatedFrom [] (t.fields.map (·.name))

/-! ## What points nowhere -/

/-- Does an index of a table have fields, all of them of the table. -/
def Table.holds (t : Table) (i : Index) : Bool :=
  !i.fieldIds.isEmpty && i.fieldIds.all (fun id => t.fields.any (·.id == id))

/-- A table without the indexes that point nowhere. -/
def Table.pruned (t : Table) : Table := { t with indexes := t.indexes.filter t.holds }

/-- Does a table of this identifier have a field of that one. Of several tables with the same
identifier the last counts. -/
def hasField (d : Diagram) (tableId fieldId : String) : Bool :=
  match d.tables.reverse.find? (·.id == tableId) with
  | some t => t.fields.any (·.id == fieldId)
  | none => false

/-- Do both ends of a relationship exist. -/
def joins (d : Diagram) (r : Relationship) : Bool :=
  d.hasField r.sourceTableId r.sourceFieldId && d.hasField r.targetTableId r.targetFieldId

/-- A diagram without what points nowhere. -/
def pruned (d : Diagram) : Diagram :=
  { d with
    tables := d.tables.map Table.pruned
    relationships := d.relationships.filter d.joins }

/-- What there is to say about a diagram: dropped indexes, dropped relationships, and names that
occur twice. -/
def issues (d : Diagram) : List String :=
  let indexes := d.tables.flatMap (fun t =>
    (t.indexes.filter (!t.holds ·)).map (fun i =>
      "Index " ++ i.name ++ " on " ++ t.name ++ " dropped: it references a missing field"))
  let relationships := (d.relationships.filter (!d.joins ·)).map (fun r =>
    "Relationship " ++ r.name ++ " dropped: it references a missing table or field")
  let conflicts := (namingConflicts d.tables).map (fun c =>
    "Table " ++ c.tableName ++ " duplicates table " ++ c.existingTableName)
  let fields := d.tables.flatMap (fun t =>
    t.duplicateFields.map (fun n => "Field " ++ n ++ " appears more than once in " ++ t.name))
  indexes ++ relationships ++ conflicts ++ fields

end SchemaChart.Diagram
