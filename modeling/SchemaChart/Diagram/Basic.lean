-- Diagrams: tables with fields and indexes, relationships between fields, and custom types. A
-- diagram knows no dialect but the one it is meant for.
import SchemaChart.Catalog
import SchemaChart.Data.Binary64
import SchemaChart.Data.Instant
import SchemaChart.Dialect
import SchemaChart.Schema.Basic

namespace SchemaChart.Diagram

open Data (Binary64 Instant)
open Text

/-! ## Fields and indexes -/

/-- A field of a table. -/
structure Field where
  id : String
  name : String
  type : DataType
  primaryKey : Bool := false
  unique : Bool := false
  nullable : Bool := true
  increment : Option Bool := none
  isArray : Option Bool := none
  createdAt : Int := 0
  /-- The length of the text; `max` stands for no bound. -/
  length : Option String := none
  precision : Option Nat := none
  scale : Option Nat := none
  default : Option String := none
  collation : Option String := none
  comments : Option String := none
  /-- What every update of a row sets the field to. -/
  onUpdate : Option String := none
deriving Repr, DecidableEq, Inhabited

namespace Field

def increments (f : Field) : Bool := f.increment.getD false

def isList (f : Field) : Bool := f.isArray.getD false

/-- Is no value of the field allowed twice. -/
def isKey (f : Field) : Bool := f.primaryKey || f.unique

end Field

/-- An index over fields of a table; the name is empty if it has none. -/
structure Index where
  id : String
  name : String := ""
  unique : Bool := false
  fieldIds : List String
  createdAt : Int := 0
  method : Option String := none
  primaryKey : Option Bool := none
deriving Repr, DecidableEq, Inhabited

def Index.isPrimaryKey (i : Index) : Bool := i.primaryKey.getD false

/-! ## Tables -/

/-- A table or a view, at its place on the canvas. -/
structure Table where
  id : String
  name : String
  schema : Option String := none
  x : Binary64 := .zero false
  y : Binary64 := .zero false
  fields : List Field
  indexes : List Index := []
  color : String
  isView : Bool := false
  isMaterializedView : Option Bool := none
  createdAt : Int := 0
  width : Option Binary64 := none
  comments : Option String := none
  order : Option Nat := none
deriving Repr, DecidableEq, Inhabited

namespace Table

def fieldById? (t : Table) (id : String) : Option Field := t.fields.find? (·.id == id)

/-- The field of a name; an exact name comes before a name up to case. -/
def fieldByName? (t : Table) (name : String) : Option Field :=
  (Schema.positionByName? Field.name name t.fields).bind (t.fields[·]?)

/-- The fields that are marked as primary key. -/
def primaryKeyFields (t : Table) : List Field := t.fields.filter (·.primaryKey)

/-- The first index that is marked as primary key. -/
def primaryKeyIndex? (t : Table) : Option Index := t.indexes.find? (·.isPrimaryKey)

/-- The name with the schema before it, if there is one. -/
def qualifiedName (t : Table) : String :=
  match t.schema with
  | some s => if s.isEmpty then t.name else s ++ "." ++ t.name
  | none => t.name

end Table

/-! ## Relationships and types -/

/-- How many rows may stand on one side of a relationship. -/
inductive Cardinality where
  | one
  | many
deriving Repr, DecidableEq, Inhabited

def Cardinality.name : Cardinality → String
  | one => "one"
  | many => "many"

def Cardinality.ofName? : String → Option Cardinality
  | "one" => some one
  | "many" => some many
  | _ => none

/-- A relationship between two fields. -/
structure Relationship where
  id : String
  name : String
  sourceSchema : Option String := none
  sourceTableId : String
  targetSchema : Option String := none
  targetTableId : String
  sourceFieldId : String
  targetFieldId : String
  sourceCardinality : Cardinality := .one
  targetCardinality : Cardinality := .many
  createdAt : Int := 0
deriving Repr, DecidableEq, Inhabited

/-- One end of a relationship: a field of a table. -/
structure End where
  tableId : String
  fieldId : String
deriving Repr, DecidableEq, Inhabited

namespace Relationship

def source (r : Relationship) : End := ⟨r.sourceTableId, r.sourceFieldId⟩

def target (r : Relationship) : End := ⟨r.targetTableId, r.targetFieldId⟩

def isManyToMany (r : Relationship) : Bool :=
  r.sourceCardinality == .many && r.targetCardinality == .many

/-- The end that holds the foreign key of a relationship, and the end it refers to. The key stands
on the side of the many; between one and one it stands at the source, and between many and many
there is none. -/
def key? (r : Relationship) : Option (End × End) :=
  match r.sourceCardinality, r.targetCardinality with
  | .one, .many => some (r.target, r.source)
  | .many, .one | .one, .one => some (r.source, r.target)
  | .many, .many => none

end Relationship

/-- A field of a composite type. -/
structure TypeField where
  field : String
  type : String
deriving Repr, DecidableEq, Inhabited

/-- An enumeration or a composite type. -/
structure CustomType where
  id : String
  schema : Option String := none
  name : String
  kind : Schema.TypeKind
  values : Option (List String) := none
  fields : Option (List TypeField) := none
deriving Repr, DecidableEq, Inhabited

end SchemaChart.Diagram

namespace SchemaChart

open Data (Instant)

/-- A diagram. -/
structure Diagram where
  id : String
  name : String
  dialect : Dialect
  tables : List Diagram.Table := []
  relationships : List Diagram.Relationship := []
  customTypes : Option (List Diagram.CustomType) := none
  createdAt : Instant := .epoch
  updatedAt : Instant := .epoch
deriving Repr, DecidableEq, Inhabited

namespace Diagram

def tableById? (d : Diagram) (id : String) : Option Table := d.tables.find? (·.id == id)

/-- The table with exactly this name and this schema. -/
def tableByName? (d : Diagram) (name : String) (schema : Option String) : Option Table :=
  d.tables.find? (fun t => t.name == name && t.schema == schema)

/-- The custom types, none if there is no list of them. -/
def types (d : Diagram) : List CustomType := d.customTypes.getD []

end Diagram

end SchemaChart
