-- Records as they are stored: values under names, or values in the order of the names.
import SchemaChart.Data.Json

namespace SchemaChart.Data

/-- How a record is stored. -/
inductive Stored (α : Type) where
  | named (pairs : List (String × α))
  | listed (values : List α)

/-- What a record has for a name: a value, none, or none because its list ended before. -/
inductive Slot (α : Type) where
  | value (a : α)
  | absent
  | beyond

/-- A record by the names it may have. -/
abbrev Record (α : Type) := List (String × Slot α)

/-- The slots of a list of values. -/
def listSlots : List String → List α → Record α
  | [], _ => []
  | n :: ns, [] => (n, .beyond) :: listSlots ns []
  | n :: ns, v :: vs => (n, .value v) :: listSlots ns vs

/-- The record of these names. A name must not occur twice, and a list must not be too long;
other names are passed over. -/
def Stored.record? (names : List String) : Stored α → Option (Record α)
  | named pairs =>
    if names.any (fun n => (pairs.filter (·.1 == n)).length > 1) then none
    else
      some (names.map (fun n =>
        match pairs.lookup n with
        | some v => (n, .value v)
        | none => (n, .absent)))
  | listed values => if values.length > names.length then none else some (listSlots names values)

namespace Record

def slot (r : Record α) (name : String) : Slot α := (r.lookup name).getD .absent

/-- A value that must be there. -/
def required (r : Record α) (name : String) (read : α → Option β) : Option β :=
  match r.slot name with
  | .value a => read a
  | _ => none

/-- A value with a default. -/
def defaulted (r : Record α) (name : String) (read : α → Option β) (default : β) : Option β :=
  match r.slot name with
  | .value a => read a
  | _ => some default

/-- A value that may be missing under its name, but not from a list. -/
def optional (r : Record α) (name : String) (read : α → Option (Option β)) : Option (Option β) :=
  match r.slot name with
  | .value a => read a
  | .absent => some none
  | .beyond => none

end Record

/-! ## Values of JSON records -/

namespace Json

def stored? : Json → Option (Stored Json)
  | obj fs => some (.named fs)
  | arr js => some (.listed js)
  | _ => none

/-- The record of these names. -/
def record? (names : List String) (j : Json) : Option (Record Json) :=
  j.stored?.bind (·.record? names)

def string? : Json → Option String
  | str s => some s
  | _ => none

def bool? : Json → Option Bool
  | bool b => some b
  | _ => none

/-- An integer from `low` up to but not including `high`. -/
def integer? (low high : Int) : Json → Option Int
  | num (.int n) => if low ≤ n && n < high then some n else none
  | _ => none

/-- A natural number below a bound. -/
def natural? (high : Nat) (j : Json) : Option Nat := (j.integer? 0 high).map Int.toNat

/-- Any number. -/
def real? : Json → Option Binary64
  | num (.int n) => some (.ofInt n)
  | num (.real x) => some x
  | _ => none

def list? (read : Json → Option α) : Json → Option (List α)
  | arr js => js.mapM read
  | _ => none

/-- One of several names: as a string, or as the one field of an object that holds nothing. -/
def tag? (read : String → Option α) : Json → Option α
  | str s => read s
  | obj [(s, null)] => read s
  | _ => none

/-- A value or null. -/
def nullable? (read : Json → Option α) : Json → Option (Option α)
  | null => some none
  | j => (read j).map some

/-! ## Writing records -/

/-- Fields that are there always or only if they have a value. -/
def object (fields : List (Option (String × Json))) : Json := obj (fields.filterMap id)

/-- A field that is always written. -/
def always (name : String) (j : Json) : Option (String × Json) := some (name, j)

/-- A field that is written only if it has a value. -/
def ifSome (name : String) (write : α → Json) (a : Option α) : Option (String × Json) :=
  a.map (fun a => (name, write a))

def ofNat (n : Nat) : Json := num (.int n)

def ofInt (n : Int) : Json := num (.int n)

def ofReal (x : Binary64) : Json := num (.real x)

def ofStrings (ss : List String) : Json := arr (ss.map str)

/-- A value, or null if there is none. -/
def orNull (write : α → Json) : Option α → Json
  | some a => write a
  | none => null

end Json

end SchemaChart.Data
