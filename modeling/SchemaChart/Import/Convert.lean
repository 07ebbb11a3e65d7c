-- A schema laid out as a diagram: catalog types, identifiers, places and colors, and the
-- direction of relationships.
import SchemaChart.Diagram.Check
import SchemaChart.Import.Options
import SchemaChart.Import.Run

namespace SchemaChart.Import

open Text
open Diagram (Cardinality Field Relationship)

/-! ## Types -/

/-- The catalog type of a written type: by its name, as a declared type, or else `varchar`. -/
def mapType (raw : List Char) (types : List Schema.CustomType) : DataType :=
  let base := (Schema.parseType raw).base
  match Catalog.lookup? base with
  | some t => t
  | none =>
    match types.find? (fun t => sameName t.name base) with
    | some t => .named t.name
    | none => .varchar

/-- The labels of an enumeration that a column declares in its type. -/
def inlineLabels? (raw : List Char) : Option (List String) := do
  let (before, rest) ← cutAt? ['('] raw
  let behind := rest.drop 1
  if !behind.contains ')' then none
  else if Schema.normalizeName before != "enum".toList then none
  else
    let inside := ((behind.reverse.dropWhile (· != ')')).drop 1).reverse
    let labels := (splitTopLevel ',' inside).filterMap
      (fun v => (unquoteLiteral? v).map String.ofList)
    if labels.isEmpty then none else some labels

/-- The enumeration that a column declares in its type, named for table and column. -/
def inlineType? (t : Schema.Table) (c : Schema.Column) : Option Schema.CustomType :=
  (inlineLabels? c.type.toList).map (fun labels =>
    { name := t.name ++ "_" ++ c.name, schema := t.schema, kind := .enum, values := labels })

/-! ## Fields -/

/-- The field of a column. -/
def field (t : Schema.Table) (types : List Schema.CustomType) (id : String) (c : Schema.Column) :
    Field :=
  let parts := Schema.parseType c.type.toList
  let type := match inlineType? t c with
    | some e => .named e.name
    | none => mapType c.type.toList types
  let args := c.typeArgs.getD parts.args
  let kind := Catalog.sizeKind type.id
  { id := id
    name := c.name
    type := type
    primaryKey := c.primaryKey
    unique := c.unique
    nullable := c.nullable && !c.primaryKey
    increment := if c.increment then some true else none
    isArray := if parts.isArray then some true else none
    length := if kind == .length then args.length else none
    precision := if kind == .precisionScale then args.precision else none
    scale := if kind == .precisionScale then args.scale else none
    default := c.default
    collation := c.collation
    comments := c.comment
    onUpdate := c.onUpdate }

/-- The identifiers of the fields that an index names. -/
def indexFields (t : Schema.Table) (fields : List Field) (i : Schema.Index) :
    Except Error (List String) :=
  i.columns.mapM (fun c =>
    match (Schema.positionByName? Field.name c fields).bind (fields[·]?) with
    | some f => .ok f.id
    | none =>
      .error (.conversion ("Index " ++ i.name ++ " on " ++ t.name ++ " references column " ++ c
        ++ " which does not exist")))

/-- An index over fields of known identifiers. -/
def index (i : Schema.Index) (fieldIds : List String) : Diagram.Index :=
  { id := ""
    name := i.name
    unique := i.isPrimaryKey || i.unique
    fieldIds := fieldIds
    method := i.method
    primaryKey := if i.isPrimaryKey then some true else none }

/-- Indexes with identifiers by their position in a table. -/
def numberIndexes (tableId : String) (is : List Diagram.Index) : List Diagram.Index :=
  is.mapIdx (fun n i => { i with id := tableId ++ "i" ++ toString n })

/-! ## Tables -/

/-- The table at a position. -/
def table (s : Schema) (source : Dialect) (o : Options) (n : Nat) (t : Schema.Table) :
    Except Error Diagram.Table := do
  let id := "t" ++ toString n
  let fields := t.columns.mapIdx (fun k c => field t s.types (id ++ "f" ++ toString k) c)
  let indexes ← t.indexes.mapM (fun i => return index i (← indexFields t fields i))
  let (x, y) := o.layout.place n
  return {
    id := id
    name := t.name
    schema := t.schema <|> source.defaultSchema?
    x := x
    y := y
    fields := fields
    indexes := indexes
    color := o.layout.color n t.isView
    isView := t.isView
    isMaterializedView := if t.isMaterializedView then some true else none
    comments := t.comment
    order := some t.order }

/-- The tables of a schema that go into a diagram. -/
def included (s : Schema) (o : Options) : List Schema.Table :=
  s.tables.filter (fun t => o.includeViews || !t.isView)

/-- Tables from a position on. -/
def tablesFrom (s : Schema) (source : Dialect) (o : Options) :
    Nat → List Schema.Table → Except Error (List Diagram.Table)
  | _, [] => .ok []
  | n, t :: ts => do return (← table s source o n t) :: (← tablesFrom s source o (n + 1) ts)

/-! ## Relationships -/

/-- Tables of a diagram, each with the identifier it had in its schema. -/
abbrev Placed := List (String × Diagram.Table)

/-- The table of one end of a foreign key: by its identifier, else by name and schema, else by
name alone with a warning. -/
def findTable (placed : Placed) (source : Dialect) (id name : String) (schema : Option String) :
    Option Diagram.Table × List String :=
  match placed.reverse.lookup id with
  | some t => (some t, [])
  | none =>
    let tables := placed.map (·.2)
    let schema := schema <|> source.defaultSchema?
    match tables.find? (fun t => t.name == name && t.schema == schema) with
    | some t => (some t, [])
    | none =>
      match tables.find? (·.name == name) with
      | some t => (some t, ["Table " ++ name ++ " matched by name only for a relationship"])
      | none => (none, [])

/-- One, if no value may occur twice, and many otherwise. -/
def cardinality (f : Field) : Cardinality := if f.isKey then .one else .many

/-- The relationship of a foreign key between two fields. Its source is the table that is
referred to, or the one that holds the key if both ends are unique. -/
def orient (name : String) (holder : Diagram.Table) (holding : Field) (referenced : Diagram.Table)
    (target : Field) : Relationship :=
  let link (s : Diagram.Table) (f : Field) (t : Diagram.Table) (g : Field) : Relationship :=
    { id := ""
      name := name
      sourceSchema := s.schema
      sourceTableId := s.id
      targetSchema := t.schema
      targetTableId := t.id
      sourceFieldId := f.id
      targetFieldId := g.id
      sourceCardinality := cardinality f
      targetCardinality := cardinality g }
  if cardinality holding == .one && cardinality target == .one then
    link holder holding referenced target
  else link referenced target holder holding

/-- The relationship of a foreign key, and what there is to say about it. -/
def relationship (placed : Placed) (source : Dialect) (k : Schema.ForeignKey) :
    Option Relationship × List String :=
  let (holder?, said) := findTable placed source k.sourceTableId k.sourceTable k.sourceSchema
  let (referenced?, saidToo) := findTable placed source k.targetTableId k.targetTable k.targetSchema
  match holder?, referenced? with
  | some holder, some referenced =>
    match holder.fieldByName? k.sourceColumn, referenced.fieldByName? k.targetColumn with
    | some holding, some target =>
      (some (orient k.name holder holding referenced target), said ++ saidToo)
    | _, _ =>
      (none, said ++ saidToo ++ ["Relationship " ++ k.name ++ " skipped: column " ++ k.sourceTable
        ++ "." ++ k.sourceColumn ++ " or " ++ k.targetTable ++ "." ++ k.targetColumn
          ++ " not found"])
  | _, _ =>
    (none, said ++ saidToo ++ ["Relationship " ++ k.name ++ " skipped: table " ++ k.sourceTable
      ++ " or " ++ k.targetTable ++ " not found"])

/-! ## Diagrams -/

/-- A type of a diagram. -/
def customType (t : Schema.CustomType) (schema : Option String) : Diagram.CustomType :=
  { id := ""
    schema := schema
    name := t.name
    kind := t.kind
    values := if t.kind == .enum then some t.values else none
    fields := if t.kind == .composite then some (t.fields.map (fun (a, b) => ⟨a, b⟩)) else none }

/-- The types of a diagram: the declared ones, and those that columns declare. -/
def customTypes (s : Schema) (source : Dialect) (o : Options) : List Diagram.CustomType :=
  let declared := s.types.map (fun t => customType t (t.schema <|> source.defaultSchema?))
  let inline := (included s o).flatMap (fun t =>
    (t.columns.filterMap (inlineType? t)).map (fun e => customType e e.schema))
  (declared ++ inline).mapIdx (fun n t => { t with id := "c" ++ toString n })

/-- The diagram of a schema that was read in the source dialect, and what there is to say about
it. The target is the dialect the diagram is meant for; if it is open, the source is. -/
def convert (s : Schema) (source target : Dialect) (o : Options) :
    Except Error (Diagram × List String) := do
  let shown := included s o
  let tables ← tablesFrom s source o 0 shown
  let placed := (shown.map (·.id)).zip tables
  let made := s.relationships.map (relationship placed source)
  let types := customTypes s source o
  let d : Diagram := {
    id := "d"
    name := o.diagramName.getD ("SQL Import (" ++ source.displayName ++ ")")
    dialect := if target == .generic then source else target
    tables := tables
    relationships := (made.filterMap (·.1)).mapIdx (fun n r => { r with id := "r" ++ toString n })
    customTypes := if types.isEmpty then none else some types }
  let kept := d.pruned
  let numbered := { kept with
    tables := kept.tables.map (fun t => { t with indexes := numberIndexes t.id t.indexes }) }
  return (numbered, made.flatMap (·.2) ++ d.issues)

/-- A diagram that was imported, the dialect that the script was read in, and the warnings. -/
structure Imported where
  diagram : Diagram
  source : Dialect
  warnings : List String
deriving Repr, DecidableEq

/-- Imports a script. -/
def importScript (a : Data.Arithmetic) (cs : List Char) (source target : Dialect) (o : Options) :
    Except (Stop Error) Imported := do
  let source := resolveDialect source cs
  let s ← parse a source cs
  let (d, said) ← (convert s source target o).mapError .refused
  return ⟨d, source, s.warnings ++ said⟩

end SchemaChart.Import
