-- Diagrams as JSON. Optional parts are left out when they are missing, and other parts have the
-- defaults of their types.
import SchemaChart.Data.Record
import SchemaChart.Diagram.Basic

namespace SchemaChart

open Data
open Data.Json (always ifSome)

/-! ## Shared parts -/

def Dialect.toJson (d : Dialect) : Json := .str d.name

def Dialect.ofJson? (j : Json) : Option Dialect := j.tag? Dialect.ofName?

def Schema.TypeKind.name : Schema.TypeKind → String
  | enum => "enum"
  | composite => "composite"

def Schema.TypeKind.ofName? : String → Option Schema.TypeKind
  | "enum" => some .enum
  | "composite" => some .composite
  | _ => none

def DataType.toJson (t : DataType) : Json := .obj [("id", .str t.id), ("name", .str t.name)]

def DataType.ofJson? (j : Json) : Option DataType := do
  let r ← j.record? ["id", "name"]
  return ⟨← r.required "id" Json.string?, ← r.required "name" Json.string?⟩

namespace Diagram

/-- A moment in milliseconds. -/
def moment? (j : Json) : Option Int := j.integer? (-9223372036854775808) 9223372036854775808

def text? (j : Json) : Option (Option String) := j.nullable? Json.string?

def flag? (j : Json) : Option (Option Bool) := j.nullable? Json.bool?

/-- A small natural number, or none. -/
def size? (j : Json) : Option (Option Nat) := j.nullable? (Json.natural? (Nat.pow 2 32))

/-! ## Fields, indexes, tables -/

def Field.names : List String :=
  ["id", "name", "type", "primaryKey", "unique", "nullable", "increment", "isArray", "createdAt",
    "characterMaximumLength", "precision", "scale", "default", "collation", "comments", "onUpdate"]

def Field.ofJson? (j : Json) : Option Field := do
  let r ← j.record? Field.names
  return {
    id := ← r.required "id" Json.string?
    name := ← r.required "name" Json.string?
    type := ← r.required "type" DataType.ofJson?
    primaryKey := ← r.defaulted "primaryKey" Json.bool? false
    unique := ← r.defaulted "unique" Json.bool? false
    nullable := ← r.defaulted "nullable" Json.bool? true
    increment := ← r.optional "increment" flag?
    isArray := ← r.optional "isArray" flag?
    createdAt := ← r.required "createdAt" moment?
    length := ← r.optional "characterMaximumLength" text?
    precision := ← r.optional "precision" size?
    scale := ← r.optional "scale" size?
    default := ← r.optional "default" text?
    collation := ← r.optional "collation" text?
    comments := ← r.optional "comments" text?
    onUpdate := ← r.defaulted "onUpdate" text? none }

def Field.toJson (f : Field) : Json :=
  .object [
    always "id" (.str f.id),
    always "name" (.str f.name),
    always "type" f.type.toJson,
    always "primaryKey" (.bool f.primaryKey),
    always "unique" (.bool f.unique),
    always "nullable" (.bool f.nullable),
    ifSome "increment" .bool f.increment,
    ifSome "isArray" .bool f.isArray,
    always "createdAt" (.ofInt f.createdAt),
    ifSome "characterMaximumLength" .str f.length,
    ifSome "precision" .ofNat f.precision,
    ifSome "scale" .ofNat f.scale,
    ifSome "default" .str f.default,
    ifSome "collation" .str f.collation,
    ifSome "comments" .str f.comments,
    ifSome "onUpdate" .str f.onUpdate]

def Index.names : List String :=
  ["id", "name", "unique", "fieldIds", "createdAt", "type", "isPrimaryKey"]

def Index.ofJson? (j : Json) : Option Index := do
  let r ← j.record? Index.names
  return {
    id := ← r.required "id" Json.string?
    name := ← r.defaulted "name" Json.string? ""
    unique := ← r.defaulted "unique" Json.bool? false
    fieldIds := ← r.required "fieldIds" (Json.list? Json.string?)
    createdAt := ← r.required "createdAt" moment?
    method := ← r.optional "type" text?
    primaryKey := ← r.optional "isPrimaryKey" flag? }

def Index.toJson (i : Index) : Json :=
  .object [
    always "id" (.str i.id),
    always "name" (.str i.name),
    always "unique" (.bool i.unique),
    always "fieldIds" (.ofStrings i.fieldIds),
    always "createdAt" (.ofInt i.createdAt),
    ifSome "type" .str i.method,
    ifSome "isPrimaryKey" .bool i.primaryKey]

def Table.names : List String :=
  ["id", "name", "schema", "x", "y", "fields", "indexes", "color", "isView", "isMaterializedView",
    "createdAt", "width", "comments", "order"]

def Table.ofJson? (j : Json) : Option Table := do
  let r ← j.record? Table.names
  return {
    id := ← r.required "id" Json.string?
    name := ← r.required "name" Json.string?
    schema := ← r.optional "schema" text?
    x := ← r.required "x" Json.real?
    y := ← r.required "y" Json.real?
    fields := ← r.required "fields" (Json.list? Field.ofJson?)
    indexes := ← r.defaulted "indexes" (Json.list? Index.ofJson?) []
    color := ← r.required "color" Json.string?
    isView := ← r.defaulted "isView" Json.bool? false
    isMaterializedView := ← r.optional "isMaterializedView" flag?
    createdAt := ← r.required "createdAt" moment?
    width := ← r.optional "width" (Json.nullable? Json.real?)
    comments := ← r.optional "comments" text?
    order := ← r.optional "order" (Json.nullable? (Json.natural? (Nat.pow 2 64))) }

def Table.toJson (t : Table) : Json :=
  .object [
    always "id" (.str t.id),
    always "name" (.str t.name),
    ifSome "schema" .str t.schema,
    always "x" (.ofReal t.x),
    always "y" (.ofReal t.y),
    always "fields" (.arr (t.fields.map Field.toJson)),
    always "indexes" (.arr (t.indexes.map Index.toJson)),
    always "color" (.str t.color),
    always "isView" (.bool t.isView),
    ifSome "isMaterializedView" .bool t.isMaterializedView,
    always "createdAt" (.ofInt t.createdAt),
    ifSome "width" .ofReal t.width,
    ifSome "comments" .str t.comments,
    ifSome "order" .ofNat t.order]

/-! ## Relationships and types -/

def Relationship.names : List String :=
  ["id", "name", "sourceSchema", "sourceTableId", "targetSchema", "targetTableId", "sourceFieldId",
    "targetFieldId", "sourceCardinality", "targetCardinality", "createdAt"]

def Relationship.ofJson? (j : Json) : Option Relationship := do
  let r ← j.record? Relationship.names
  return {
    id := ← r.required "id" Json.string?
    name := ← r.required "name" Json.string?
    sourceSchema := ← r.optional "sourceSchema" text?
    sourceTableId := ← r.required "sourceTableId" Json.string?
    targetSchema := ← r.optional "targetSchema" text?
    targetTableId := ← r.required "targetTableId" Json.string?
    sourceFieldId := ← r.required "sourceFieldId" Json.string?
    targetFieldId := ← r.required "targetFieldId" Json.string?
    sourceCardinality := ← r.required "sourceCardinality" (Json.tag? Cardinality.ofName?)
    targetCardinality := ← r.required "targetCardinality" (Json.tag? Cardinality.ofName?)
    createdAt := ← r.required "createdAt" moment? }

def Relationship.toJson (l : Relationship) : Json :=
  .object [
    always "id" (.str l.id),
    always "name" (.str l.name),
    ifSome "sourceSchema" .str l.sourceSchema,
    always "sourceTableId" (.str l.sourceTableId),
    ifSome "targetSchema" .str l.targetSchema,
    always "targetTableId" (.str l.targetTableId),
    always "sourceFieldId" (.str l.sourceFieldId),
    always "targetFieldId" (.str l.targetFieldId),
    always "sourceCardinality" (.str l.sourceCardinality.name),
    always "targetCardinality" (.str l.targetCardinality.name),
    always "createdAt" (.ofInt l.createdAt)]

def TypeField.ofJson? (j : Json) : Option TypeField := do
  let r ← j.record? ["field", "type"]
  return ⟨← r.required "field" Json.string?, ← r.required "type" Json.string?⟩

def TypeField.toJson (f : TypeField) : Json :=
  .obj [("field", .str f.field), ("type", .str f.type)]

def CustomType.ofJson? (j : Json) : Option CustomType := do
  let r ← j.record? ["id", "schema", "name", "kind", "values", "fields"]
  return {
    id := ← r.required "id" Json.string?
    schema := ← r.optional "schema" text?
    name := ← r.required "name" Json.string?
    kind := ← r.required "kind" (Json.tag? Schema.TypeKind.ofName?)
    values := ← r.optional "values" (Json.nullable? (Json.list? Json.string?))
    fields := ← r.optional "fields" (Json.nullable? (Json.list? TypeField.ofJson?)) }

def CustomType.toJson (t : CustomType) : Json :=
  .object [
    always "id" (.str t.id),
    ifSome "schema" .str t.schema,
    always "name" (.str t.name),
    always "kind" (.str t.kind.name),
    ifSome "values" .ofStrings t.values,
    ifSome "fields" (fun fs => .arr (fs.map TypeField.toJson)) t.fields]

/-! ## Diagrams -/

def instant? (j : Json) : Option Instant := j.string?.bind Instant.parse?

def names : List String :=
  ["id", "name", "databaseType", "tables", "relationships", "customTypes", "createdAt", "updatedAt"]

def ofJson? (j : Json) : Option Diagram := do
  let r ← j.record? names
  return {
    id := ← r.required "id" Json.string?
    name := ← r.required "name" Json.string?
    dialect := ← r.required "databaseType" Dialect.ofJson?
    tables := ← r.defaulted "tables" (Json.list? Table.ofJson?) []
    relationships := ← r.defaulted "relationships" (Json.list? Relationship.ofJson?) []
    customTypes := ← r.optional "customTypes" (Json.nullable? (Json.list? CustomType.ofJson?))
    createdAt := ← r.required "createdAt" instant?
    updatedAt := ← r.required "updatedAt" instant? }

def toJson (d : Diagram) : Json :=
  .object [
    always "id" (.str d.id),
    always "name" (.str d.name),
    always "databaseType" d.dialect.toJson,
    always "tables" (.arr (d.tables.map Table.toJson)),
    always "relationships" (.arr (d.relationships.map Relationship.toJson)),
    ifSome "customTypes" (fun ts => .arr (ts.map CustomType.toJson)) d.customTypes,
    always "createdAt" (.str d.createdAt.render),
    always "updatedAt" (.str d.updatedAt.render)]

/-- Reads a stored diagram. -/
def parse? (s : String) : Option Diagram := (Json.parse? s).bind ofJson?

/-- The text that a diagram is stored as. -/
def render (d : Diagram) : String := d.toJson.pretty 0

end Diagram

end SchemaChart
