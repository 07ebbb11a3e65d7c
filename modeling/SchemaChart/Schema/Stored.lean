-- Schemas as JSON.
import SchemaChart.Diagram.Stored

namespace SchemaChart.Schema

open Data
open Data.Json (always ifSome)
open Diagram (text? size?)

/-! ## Columns and indexes -/

def SizeArgs.ofJson? (j : Json) : Option SizeArgs := do
  let r ← j.record? ["length", "precision", "scale"]
  return {
    length := ← r.optional "length" text?
    precision := ← r.optional "precision" size?
    scale := ← r.optional "scale" size? }

def SizeArgs.toJson (a : SizeArgs) : Json :=
  .object [ifSome "length" .str a.length, ifSome "precision" .ofNat a.precision,
    ifSome "scale" .ofNat a.scale]

def Column.ofJson? (j : Json) : Option Column := do
  let r ← j.record? ["name", "type", "nullable", "primaryKey", "unique", "typeArgs", "default",
    "comment", "collation", "increment", "onUpdate"]
  return {
    name := ← r.required "name" Json.string?
    type := ← r.required "type" Json.string?
    nullable := ← r.required "nullable" Json.bool?
    primaryKey := ← r.required "primaryKey" Json.bool?
    unique := ← r.required "unique" Json.bool?
    typeArgs := ← r.optional "typeArgs" (Json.nullable? SizeArgs.ofJson?)
    default := ← r.optional "default" text?
    comment := ← r.optional "comment" text?
    collation := ← r.optional "collation" text?
    increment := ← r.required "increment" Json.bool?
    onUpdate := ← r.optional "onUpdate" text? }

def Column.toJson (c : Column) : Json :=
  .object [
    always "name" (.str c.name),
    always "type" (.str c.type),
    always "nullable" (.bool c.nullable),
    always "primaryKey" (.bool c.primaryKey),
    always "unique" (.bool c.unique),
    ifSome "typeArgs" SizeArgs.toJson c.typeArgs,
    ifSome "default" .str c.default,
    ifSome "comment" .str c.comment,
    ifSome "collation" .str c.collation,
    always "increment" (.bool c.increment),
    ifSome "onUpdate" .str c.onUpdate]

def Index.ofJson? (j : Json) : Option Index := do
  let r ← j.record? ["name", "columns", "unique", "type", "isPrimaryKey"]
  return {
    name := ← r.required "name" Json.string?
    columns := ← r.required "columns" (Json.list? Json.string?)
    unique := ← r.required "unique" Json.bool?
    method := ← r.optional "type" text?
    isPrimaryKey := ← r.required "isPrimaryKey" Json.bool? }

def Index.toJson (i : Index) : Json :=
  .object [
    always "name" (.str i.name),
    always "columns" (.ofStrings i.columns),
    always "unique" (.bool i.unique),
    ifSome "type" .str i.method,
    always "isPrimaryKey" (.bool i.isPrimaryKey)]

/-! ## Tables, foreign keys, types -/

def Table.ofJson? (j : Json) : Option Table := do
  let r ← j.record? ["id", "name", "schema", "columns", "indexes", "comment", "isView",
    "isMaterializedView", "order"]
  return {
    id := ← r.required "id" Json.string?
    name := ← r.required "name" Json.string?
    schema := ← r.optional "schema" text?
    columns := ← r.required "columns" (Json.list? Column.ofJson?)
    indexes := ← r.required "indexes" (Json.list? Index.ofJson?)
    comment := ← r.optional "comment" text?
    isView := ← r.required "isView" Json.bool?
    isMaterializedView := ← r.required "isMaterializedView" Json.bool?
    order := ← r.required "order" (Json.natural? (Nat.pow 2 64)) }

def Table.toJson (t : Table) : Json :=
  .object [
    always "id" (.str t.id),
    always "name" (.str t.name),
    ifSome "schema" .str t.schema,
    always "columns" (.arr (t.columns.map Column.toJson)),
    always "indexes" (.arr (t.indexes.map Index.toJson)),
    ifSome "comment" .str t.comment,
    always "isView" (.bool t.isView),
    always "isMaterializedView" (.bool t.isMaterializedView),
    always "order" (.ofNat t.order)]

def ForeignKey.ofJson? (j : Json) : Option ForeignKey := do
  let r ← j.record? ["name", "sourceTable", "sourceSchema", "sourceTableId", "sourceColumn",
    "targetTable", "targetSchema", "targetTableId", "targetColumn", "updateAction", "deleteAction"]
  return {
    name := ← r.required "name" Json.string?
    sourceTable := ← r.required "sourceTable" Json.string?
    sourceSchema := ← r.optional "sourceSchema" text?
    sourceTableId := ← r.required "sourceTableId" Json.string?
    sourceColumn := ← r.required "sourceColumn" Json.string?
    targetTable := ← r.required "targetTable" Json.string?
    targetSchema := ← r.optional "targetSchema" text?
    targetTableId := ← r.required "targetTableId" Json.string?
    targetColumn := ← r.required "targetColumn" Json.string?
    updateAction := ← r.optional "updateAction" text?
    deleteAction := ← r.optional "deleteAction" text? }

def ForeignKey.toJson (k : ForeignKey) : Json :=
  .object [
    always "name" (.str k.name),
    always "sourceTable" (.str k.sourceTable),
    ifSome "sourceSchema" .str k.sourceSchema,
    always "sourceTableId" (.str k.sourceTableId),
    always "sourceColumn" (.str k.sourceColumn),
    always "targetTable" (.str k.targetTable),
    ifSome "targetSchema" .str k.targetSchema,
    always "targetTableId" (.str k.targetTableId),
    always "targetColumn" (.str k.targetColumn),
    ifSome "updateAction" .str k.updateAction,
    ifSome "deleteAction" .str k.deleteAction]

/-- A field of a composite type: a list of its name and its type. -/
def pair? : Json → Option (String × String)
  | .arr [.str a, .str b] => some (a, b)
  | _ => none

def CustomType.ofJson? (j : Json) : Option CustomType := do
  let r ← j.record? ["name", "schema", "kind", "values", "fields"]
  return {
    name := ← r.required "name" Json.string?
    schema := ← r.optional "schema" text?
    kind := ← r.required "kind" (Json.tag? TypeKind.ofName?)
    values := ← r.defaulted "values" (Json.list? Json.string?) []
    fields := ← r.defaulted "fields" (Json.list? pair?) [] }

def CustomType.toJson (t : CustomType) : Json :=
  .object [
    always "name" (.str t.name),
    ifSome "schema" .str t.schema,
    always "kind" (.str t.kind.name),
    always "values" (.ofStrings t.values),
    always "fields" (.arr (t.fields.map (fun (a, b) => .arr [.str a, .str b])))]

/-! ## Schemas -/

def ofJson? (j : Json) : Option Schema := do
  let r ← j.record? ["tables", "relationships", "types", "warnings"]
  return {
    tables := ← r.required "tables" (Json.list? Table.ofJson?)
    relationships := ← r.required "relationships" (Json.list? ForeignKey.ofJson?)
    types := ← r.required "types" (Json.list? CustomType.ofJson?)
    warnings := ← r.required "warnings" (Json.list? Json.string?) }

def toJson (s : Schema) : Json :=
  .obj [("tables", .arr (s.tables.map Table.toJson)),
    ("relationships", .arr (s.relationships.map ForeignKey.toJson)),
    ("types", .arr (s.types.map CustomType.toJson)),
    ("warnings", .ofStrings s.warnings)]

end SchemaChart.Schema
