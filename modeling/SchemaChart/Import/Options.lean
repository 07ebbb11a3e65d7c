-- Options of an import: where tables are put on the canvas, their colors, and what is kept.
import SchemaChart.Data.Yaml.Value

namespace SchemaChart.Import

open Data

/-- Places and colors of imported tables. -/
structure Layout where
  /-- Tables in a row of the grid. -/
  columns : Nat := 4
  spacingX : Binary64 := .ofNat 300
  spacingY : Binary64 := .ofNat 300
  /-- The colors of tables, in turn. -/
  palette : List String :=
    ["#8eb7ff", "#ff8e8e", "#8eff9a", "#ffd98e", "#c48eff", "#8efff1", "#ff8ed9", "#b5ff8e"]
  viewColor : String := "#b0b0b0"
deriving Repr, DecidableEq

namespace Layout

/-- The top left corner of the table at a position. -/
def place (l : Layout) (i : Nat) : Binary64 × Binary64 :=
  let columns := max l.columns 1
  (.mul (.ofNat (i % columns)) l.spacingX, .mul (.ofNat (i / columns)) l.spacingY)

/-- The color of the table at a position. -/
def color (l : Layout) (i : Nat) (isView : Bool) : String :=
  if isView then l.viewColor else (l.palette[i % l.palette.length]?).getD l.viewColor

end Layout

/-- Options of an import. -/
structure Options where
  layout : Layout := {}
  /-- The name of the diagram; by default it names the dialect. -/
  diagramName : Option String := none
  includeViews : Bool := true
deriving Repr, DecidableEq

/-! ## Stored options -/

def Layout.names : List String := ["columns", "spacingX", "spacingY", "palette", "viewColor"]

def Options.names : List String := ["layout", "diagramName", "includeViews"]

/-- How the parts of options are read from stored values. -/
structure Reader (α : Type) where
  record? : List String → α → Option (Record α)
  natural? : Nat → α → Option Nat
  real? : α → Option Binary64
  strings? : α → Option (List String)
  string? : α → Option String
  text? : α → Option (Option String)
  bool? : α → Option Bool

def jsonReader : Reader Json where
  record? := Json.record?
  natural? := Json.natural?
  real? := Json.real?
  strings? := Json.list? Json.string?
  string? := Json.string?
  text? := Json.nullable? Json.string?
  bool? := Json.bool?

def yamlReader : Reader Yaml.Document where
  record? := Yaml.Document.record?
  natural? := Yaml.Document.natural?
  real? := Yaml.Document.real?
  strings? := Yaml.Document.list? Yaml.Document.string?
  string? := Yaml.Document.string?
  text? := Yaml.Document.nullable? Yaml.Document.string?
  bool? := Yaml.Document.bool?

namespace Reader

/-- Reads a layout; what is missing has its default. -/
def layout? (r : Reader α) (a : α) : Option Layout := do
  let d : Layout := {}
  let fields ← r.record? Layout.names a
  return {
    columns := ← fields.defaulted "columns" (r.natural? (Nat.pow 2 64)) d.columns
    spacingX := ← fields.defaulted "spacingX" r.real? d.spacingX
    spacingY := ← fields.defaulted "spacingY" r.real? d.spacingY
    palette := ← fields.defaulted "palette" r.strings? d.palette
    viewColor := ← fields.defaulted "viewColor" r.string? d.viewColor }

/-- Reads options; what is missing has its default. -/
def options? (r : Reader α) (a : α) : Option Options := do
  let fields ← r.record? Options.names a
  return {
    layout := ← fields.defaulted "layout" r.layout? {}
    diagramName := ← fields.defaulted "diagramName" r.text? none
    includeViews := ← fields.defaulted "includeViews" r.bool? true }

end Reader

/-- Reads options from JSON. -/
def Options.ofJson? (s : String) : Option Options := (Json.parse? s).bind jsonReader.options?

/-- Reads options from YAML. -/
def Options.ofYaml? (s : String) : Option Options := (Yaml.parse? s).bind yamlReader.options?

def Layout.toJson (l : Layout) : Json :=
  .obj [("columns", .ofNat l.columns), ("spacingX", .ofReal l.spacingX),
    ("spacingY", .ofReal l.spacingY), ("palette", .ofStrings l.palette),
    ("viewColor", .str l.viewColor)]

def Options.toJson (o : Options) : Json :=
  .object [.some ("layout", o.layout.toJson), Json.ifSome "diagramName" .str o.diagramName,
    .some ("includeViews", .bool o.includeViews)]

end SchemaChart.Import
