-- Facts about a table that statements state, and the changes that alterations ask for.
import SchemaChart.Schema.Basic

namespace SchemaChart.Schema

/-- A constraint or an index of a table. -/
inductive Fact where
  | primaryKey (name : Option String) (columns : List String)
  | unique (name : Option String) (columns : List String)
  | index (name : String) (columns : List String) (unique : Bool) (method : Option String)
  | foreignKey (name : Option String) (columns : List String) (target : TableRef)
      (targetColumns : List String) (onUpdate onDelete : Option String)
deriving Repr, DecidableEq, Inhabited

/-- One change that an alteration of a table asks for. -/
inductive Alteration where
  | addConstraint (fact : Fact)
  | addColumn (column : Column) (facts : List Fact)
  | modifyColumn (column : Column)
  | setDefault (column : String) (value : String)
  | setNotNull (column : String)
deriving Repr, DecidableEq, Inhabited

/-- When a change of a dump is made: primary keys first, then unique keys, then the rest. -/
def Alteration.phase : Alteration → Nat
  | addConstraint (.primaryKey ..) => 0
  | addConstraint (.unique ..) => 1
  | addConstraint (.index _ _ true _) => 1
  | _ => 2

end SchemaChart.Schema
