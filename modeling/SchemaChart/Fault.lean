-- How the work on a script ends early: it is refused, with what there is to say about it, or it
-- breaks down.

namespace SchemaChart

/-- How an import breaks down. It then ends without any answer. -/
inductive Fault where
  /-- A text was to be cut inside a character. -/
  | cutCharacter
  /-- A number does not fit into a machine word. -/
  | overflow
deriving Repr, DecidableEq

/-- Why something comes to no result: it is refused for a reason, or the import breaks down. -/
inductive Stop (ε : Type) where
  | refused (reason : ε)
  | fault (fault : Fault)
deriving Repr, DecidableEq

end SchemaChart
