-- Programs that write into a schema under construction, as statements are taken in.
import SchemaChart.Fault
import SchemaChart.Schema.Builder

namespace SchemaChart.Schema

/-- A program that writes into a schema under construction. If it is refused, what it has written
until then stays. -/
abbrev Writing (ε : Type) := EStateM (Stop ε) Builder

namespace Writing

def refuse (reason : ε) : Writing ε α := throw (.refused reason)

instance : MonadLift (Except ε) (Writing ε) where
  monadLift
    | .ok a => pure a
    | .error e => refuse e

instance : MonadLift (Except Fault) (Writing ε) where
  monadLift
    | .ok a => pure a
    | .error f => throw (.fault f)

/-- Goes on from where a program was refused. Where the import breaks down, nothing goes on. -/
def onRefusal (w : Writing ε α) (handle : ε → Writing δ α) : Writing δ α := fun b =>
  match w b with
  | .ok a b => .ok a b
  | .error (.refused e) b => handle e b
  | .error (.fault f) b => .error (.fault f) b

/-- The position of the table that a reference means. -/
def resolve (r : TableRef) : Writing ε (Option Nat) := modifyGet (·.resolve r)

/-- Adds a table and tells its position. -/
def addTable (t : Table) : Writing ε Nat := modifyGet (·.addTable t)

end Writing

end SchemaChart.Schema
