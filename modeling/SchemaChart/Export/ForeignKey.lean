-- Foreign keys in scripts: the relationships that have one, resolved to tables and columns.
import SchemaChart.Export.Quoting

namespace SchemaChart.Export

open Diagram (Field Relationship Table)

/-- A foreign key: the column that holds it, and the column it refers to. -/
structure ForeignKey where
  name : String
  holder : Table
  holding : Field
  referenced : Table
  target : Field
deriving Repr, DecidableEq, Inhabited

/-- The foreign key of a relationship, if it has one and both its ends exist. Without a name it is
named for its table and its column. -/
def foreignKey? (d : Diagram) (r : Relationship) : Option ForeignKey := do
  let (from_, to_) ← r.key?
  let holder ← d.tableById? from_.tableId
  let referenced ← d.tableById? to_.tableId
  let holding ← holder.fieldById? from_.fieldId
  let target ← referenced.fieldById? to_.fieldId
  let name := if r.name.isEmpty then "fk_" ++ holder.name ++ "_" ++ holding.name else r.name
  return ⟨name, holder, holding, referenced, target⟩

namespace ForeignKey

/-- What foreign keys are sorted by. -/
def place (k : ForeignKey) : List String := [k.holder.schema.getD "", k.holder.name, k.name]

def le (a b : ForeignKey) : Bool := !decide (b.place < a.place)

/-- The clause that declares a foreign key. -/
def clause (q : Quoting) (k : ForeignKey) (withSchema : Bool) : String :=
  let referenced := if withSchema then q.table k.referenced else q.ident k.referenced.name
  "CONSTRAINT " ++ q.ident k.name ++ " FOREIGN KEY (" ++ q.columns [k.holding.name]
    ++ ") REFERENCES " ++ referenced ++ " (" ++ q.columns [k.target.name] ++ ")"

/-- The statement that adds a foreign key to its table. -/
def statement (q : Quoting) (k : ForeignKey) : String :=
  "ALTER TABLE " ++ q.table k.holder ++ " ADD " ++ k.clause q true ++ ";"

end ForeignKey

/-- The foreign keys between tables of a diagram, by schema, table and name. -/
def foreignKeys (d : Diagram) : List ForeignKey :=
  ((d.relationships.filterMap (foreignKey? d)).filter
    (fun k => !k.holder.isView && !k.referenced.isView)).mergeSort ForeignKey.le

/-- The statements that add all foreign keys, each in its line. -/
def keyBlock (q : Quoting) (d : Diagram) : String :=
  "\n".intercalate ((foreignKeys d).map (ForeignKey.statement q))

end SchemaChart.Export
