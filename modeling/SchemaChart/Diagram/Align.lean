-- Types of fields that are related: the narrower of two numeric fields takes the type of the wider
-- one.
import SchemaChart.Diagram.Basic

namespace SchemaChart.Diagram

/-- The type of a field, with precision and scale. -/
structure FieldType where
  type : DataType
  precision : Option Nat := none
  scale : Option Nat := none
deriving Repr, DecidableEq, Inhabited

/-- The size of a numeric type in storage. -/
def FieldType.rank? (t : FieldType) : Option Nat := Catalog.rank? t.type.id

namespace Field

def fieldType (f : Field) : FieldType := ⟨f.type, f.precision, f.scale⟩

def withType (f : Field) (t : FieldType) : Field :=
  { f with type := t.type, precision := t.precision, scale := t.scale }

end Field

/-- The types of fields by their identifiers; the first entry counts. -/
abbrev Typing := List (String × FieldType)

namespace Typing

/-- Gives a field another type. -/
def set (ts : Typing) (id : String) (t : FieldType) : Typing :=
  ts.map (fun (i, u) => (i, if i == id then t else u))

/-- Widens the narrower of the two fields of a relationship, if both are numeric and one is
narrower. -/
def widen? (ts : Typing) (r : Relationship) : Option Typing :=
  match ts.lookup r.sourceFieldId, ts.lookup r.targetFieldId with
  | some s, some t =>
    match s.rank?, t.rank? with
    | some m, some n =>
      if m < n then some (ts.set r.sourceFieldId t)
      else if n < m then some (ts.set r.targetFieldId s)
      else none
    | _, _ => none
  | _, _ => none

/-- Widens over a relationship, and marks that something has changed. -/
def visit (p : Typing × Bool) (r : Relationship) : Typing × Bool :=
  match p.1.widen? r with
  | some ts => (ts, true)
  | none => p

/-- Goes through the relationships until nothing changes, but at most a number of times. -/
def settle (rs : List Relationship) : Nat → Typing → Typing
  | 0, ts => ts
  | n + 1, ts =>
    match rs.foldl visit (ts, false) with
    | (ts, true) => settle rs n ts
    | (ts, false) => ts

end Typing

/-- The types of the fields of a diagram; of several fields with the same identifier the last
counts. -/
def typing (d : Diagram) : Typing :=
  ((d.tables.flatMap (·.fields)).map (fun f => (f.id, f.fieldType))).reverse

/-- A diagram in which fields have the types of a typing. -/
def retyped (d : Diagram) (ts : Typing) : Diagram :=
  let field (f : Field) : Field :=
    match ts.lookup f.id with
    | some t => f.withType t
    | none => f
  { d with tables := d.tables.map (fun t => { t with fields := t.fields.map field }) }

/-- A diagram in which related numeric fields have the same size. One more passage than there are
relationships is enough for chains of them. -/
def aligned (d : Diagram) : Diagram :=
  d.retyped (d.typing.settle d.relationships (d.relationships.length + 1))

end SchemaChart.Diagram
