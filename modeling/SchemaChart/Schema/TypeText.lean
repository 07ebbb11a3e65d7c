-- Column types as scripts write them: base name, size arguments, array marks, and the storage
-- class that a declared type falls into.
import SchemaChart.Text.Pattern

namespace SchemaChart.Schema

open Text

/-- The size arguments of a type. A length is kept as text, since it may be `max`. -/
structure SizeArgs where
  length : Option String := none
  precision : Option Nat := none
  scale : Option Nat := none
deriving Repr, DecidableEq, Inhabited

/-- Are there no size arguments. -/
def SizeArgs.isEmpty (a : SizeArgs) : Bool :=
  a.length.isNone && a.precision.isNone && a.scale.isNone

/-- A type taken apart: its base name in lower case, its size arguments, and whether it is an
array. -/
structure TypeParts where
  base : String
  args : SizeArgs
  isArray : Bool
deriving Repr, DecidableEq, Inhabited

/-! ## Names -/

/-- Is `c` one of the quotes and brackets that may stand around a type name. -/
def isNameMark (c : Char) : Bool := c == '"' || c == '`' || c == '[' || c == ']'

/-- The text before the last dot and the text after it. -/
def cutAtLastDot? (cs : List Char) : Option (List Char × List Char) :=
  if cs.contains '.' then
    let tail := (cs.reverse.takeWhile (· != '.')).reverse
    some (cs.take (cs.length - tail.length - 1), tail)
  else none

/-- A type name in lower case, without quotes, with single spaces, without `zerofill`, and
without the schema that may stand before it. -/
def normalizeName (cs : List Char) : List Char :=
  let ws := (words (lower (cs.filter (!isNameMark ·)))).filter (· != "zerofill".toList)
  let joined := unwords ws
  match cutAtLastDot? joined with
  | some (schema, name) => if schema.contains ' ' then joined else name
  | none => joined

/-- Type names that stand for an integer fed by a sequence. -/
def serialNames : List String :=
  ["serial", "serial4", "bigserial", "serial8", "smallserial", "serial2"]

def isSerial (base : String) : Bool := serialNames.contains base

/-! ## Size arguments -/

/-- A number below `limit` in decimal digits; a plus sign may stand before it. -/
def numberBelow? (limit : Nat) (cs : List Char) : Option Nat :=
  let digits := match cs with
    | '+' :: ds => ds
    | ds => ds
  if digits.isEmpty || !digits.all Char.isDigit then none
  else
    let n := digits.foldl (fun n d => 10 * n + (d.toNat - '0'.toNat)) 0
    if n < limit then some n else none

/-- Types whose arguments are a precision and a scale. -/
def numericNames : List String :=
  ["numeric", "decimal", "dec", "number", "fixed", "float", "double", "real"]

def isNumericName (base : List Char) : Bool :=
  let name := trim (lower base)
  numericNames.any (fun t => name == t.toList || startsWith name (t ++ " "))

/-- The size arguments of a type from the values in its parentheses. -/
def sizeArgs (base : List Char) (values : List (List Char)) : SizeArgs :=
  if isNumericName base then
    { precision := values.head?.bind (numberBelow? (Nat.pow 2 32)),
      scale := values[1]?.bind (numberBelow? (Nat.pow 2 32)) }
  else
    match values with
    | [] => {}
    | v :: _ =>
      if eqIgnoringCase v "max".toList then { length := some "max" }
      else if v.all Char.isDigit then { length := some (String.ofList v) }
      else {}

/-! ## Types -/

/-- Takes the array marks off the end of a type, and tells whether there were any. The first
argument bounds their number. -/
def dropArrayMarks : Nat → List Char → List Char × Bool
  | 0, cs => (cs, false)
  | n + 1, cs =>
    match dropTail? "[]".toList cs with
    | some front => ((dropArrayMarks n (trimEnd front)).1, true)
    | none => (cs, false)

/-- Takes the word `ARRAY` off the end of a type, and tells whether it was there. -/
def dropArrayWord (cs : List Char) : List Char × Bool :=
  if endsWith (upper cs) " ARRAY" then (trimEnd (cs.take (cs.length - 6)), true) else (cs, false)

/-- A type with arguments: base, arguments, and the words behind them. -/
def sizedType : Pattern :=
  open Pattern in
  textStart ++ group "base" (run false (· != '(')) ++ gap ++ lit "(" ++ gap
    ++ group "args" (run true (· != ')')) ++ lit ")" ++ gap ++ group "tail" restOfLine ++ textEnd

/-- Takes a type apart. -/
def parseType (raw : List Char) : TypeParts :=
  let text := trim raw
  let (text, marked) := dropArrayMarks text.length text
  let (text, worded) := dropArrayWord text
  let (base, args) := match sizedType.find? text with
    | none => (text, {})
    | some f =>
      let base := f.group "base"
      let tail := f.group "tail"
      let values := ((pieces (· == ',') (f.group "args")).map trim).filter (!·.isEmpty)
      (if tail.isEmpty then base else base ++ ' ' :: tail, sizeArgs base values)
  ⟨String.ofList (normalizeName base), args, marked || worded⟩

/-! ## Storage classes -/

/-- The storage class that SQLite gives to a declared type. -/
inductive Affinity where
  | integer
  | text
  | blob
  | real
  | numeric
deriving Repr, DecidableEq

def Affinity.sql : Affinity → String
  | integer => "INTEGER"
  | text => "TEXT"
  | blob => "BLOB"
  | real => "REAL"
  | numeric => "NUMERIC"

/-- The storage class of a declared type, by the parts of its name. -/
def affinity (declared : List Char) : Affinity :=
  let u := upper declared
  if holds u "INT" then .integer
  else if holds u "CHAR" || holds u "CLOB" || holds u "TEXT" then .text
  else if u.isEmpty || holds u "BLOB" || holds u "BINARY" then .blob
  else if holds u "REAL" || holds u "FLOA" || holds u "DOUB" then .real
  else .numeric

end SchemaChart.Schema
