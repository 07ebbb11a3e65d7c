-- Instants: points in time, read with any offset and written in universal time.
import SchemaChart.Text.Blank

namespace SchemaChart.Data

open Text

/-- A point in time: seconds since the start of 1970 in universal time, and nanoseconds. A leap
second is the second before it with a thousand million nanoseconds or more. -/
structure Instant where
  seconds : Int
  nanos : Nat
deriving Repr, DecidableEq, Inhabited

namespace Instant

/-- The start of 1970. -/
def epoch : Instant := ⟨0, 0⟩

/-! ## The calendar -/

def isLeapYear (y : Int) : Bool := y % 4 == 0 && (y % 100 != 0 || y % 400 == 0)

def daysInMonth (y : Int) (m : Nat) : Nat :=
  match m with
  | 2 => if isLeapYear y then 29 else 28
  | 4 | 6 | 9 | 11 => 30
  | _ => 31

/-- Days from the start of 1970 to a date. Years are counted from March on, so that the leap day
is the last. -/
def daysOfDate (y : Int) (m d : Nat) : Int :=
  let y' := if m ≤ 2 then y - 1 else y
  let era := y' / 400
  let ofEra := y' - era * 400
  let month : Int := if m > 2 then m - 3 else m + 9
  let ofYear := (153 * month + 2) / 5 + d - 1
  era * 146097 + (ofEra * 365 + ofEra / 4 - ofEra / 100 + ofYear) - 719468

/-- The date so many days after the start of 1970. -/
def dateOfDays (days : Int) : Int × Nat × Nat :=
  let z := days + 719468
  let era := z / 146097
  let doe := z - era * 146097
  let yoe := (doe - doe / 1460 + doe / 36524 - doe / 146096) / 365
  let doy := doe - (365 * yoe + yoe / 4 - yoe / 100)
  let mp := (5 * doy + 2) / 153
  let d := doy - (153 * mp + 2) / 5 + 1
  let m := if mp < 10 then mp + 3 else mp - 9
  let y := yoe + era * 400
  (if m ≤ 2 then y + 1 else y, m.toNat, d.toNat)

/-! ## Reading -/

/-- One to `most` digits, with blanks before them or without, and the text behind them. -/
def number? (most : Nat) (cs : List Char) : Option (Nat × List Char) :=
  let cs := trimStart cs
  let ds := (cs.take most).takeWhile Char.isDigit
  if ds.isEmpty then none
  else some (ds.foldl (fun n d => 10 * n + (d.toNat - '0'.toNat)) 0, cs.drop ds.length)

/-- A year: up to four digits, or any number of them behind a sign. -/
def year? (cs : List Char) : Option (Int × List Char) :=
  match trimStart cs with
  | '-' :: rest =>
    if rest.head?.any Char.isDigit then
      (number? rest.length rest).map (fun (n, r) => (-(n : Int), r))
    else none
  | '+' :: rest =>
    if rest.head?.any Char.isDigit then
      (number? rest.length rest).map (fun (n, r) => ((n : Int), r))
    else none
  | cs => (number? 4 cs).map (fun (n, r) => ((n : Int), r))

/-- The text behind a mark, with blanks before it or without. -/
def afterMark? (c : Char) (cs : List Char) : Option (List Char) :=
  match trimStart cs with
  | d :: rest => if d == c then some rest else none
  | [] => none

/-- A fraction of a second in nanoseconds; further digits are dropped. -/
def fraction? (cs : List Char) : Option (Nat × List Char) :=
  match cs with
  | '.' :: rest =>
    let ds := rest.takeWhile Char.isDigit
    let kept := ds.take 9
    if ds.isEmpty then none
    else
      let n := kept.foldl (fun n d => 10 * n + (d.toNat - '0'.toNat)) 0
      some (n * Nat.pow 10 (9 - kept.length), rest.drop ds.length)
  | _ => some (0, cs)

/-- Two digits. -/
def twoDigits? (cs : List Char) : Option (Nat × List Char) :=
  match cs with
  | a :: b :: rest =>
    if a.isDigit && b.isDigit then
      some (10 * (a.toNat - '0'.toNat) + (b.toNat - '0'.toNat), rest)
    else none
  | _ => none

/-- An offset from universal time in seconds: a letter, or hours and minutes behind a sign. -/
def offset? (cs : List Char) : Option (Int × List Char) :=
  match cs with
  | 'Z' :: rest | 'z' :: rest => some (0, rest)
  | c :: rest =>
    if eqUtc (c :: rest) then some (0, rest.drop 2)
    else if c == '+' || c == '-' || c == '−' then do
      let (h, rest) ← twoDigits? rest
      let (m, rest) ← twoDigits? (rest.dropWhile (fun c => c == ':' || isBlank c))
      if m > 59 then none
      else
        let s : Int := h * 3600 + m * 60
        some (if c == '+' then s else -s, rest)
    else none
  | [] => none
where
  eqUtc (cs : List Char) : Bool := (cs.take 3).map Char.toUpper == "UTC".toList

/-- Reads a date, a time and an offset. A blank may stand for the letter between date and time,
and blanks may stand between the parts. -/
def parse? (s : String) : Option Instant := do
  let (y, cs) ← year? s.toList
  let (mo, cs) ← number? 2 (← afterMark? '-' cs)
  let (d, cs) ← number? 2 (← afterMark? '-' cs)
  let cs ← match cs with
    | c :: rest => if c == 'T' || c == 't' || c == ' ' then some rest else none
    | [] => none
  let (h, cs) ← number? 2 cs
  let (mi, cs) ← number? 2 (← afterMark? ':' cs)
  let (sec, cs) ← number? 2 (← afterMark? ':' cs)
  let (nanos, cs) ← fraction? cs
  let (offset, cs) ← offset? (trimStart cs)
  if !(trimStart cs).isEmpty then none
  else if mo < 1 || mo > 12 || d < 1 || d > daysInMonth y mo then none
  else if h > 23 || mi > 59 || sec > 60 || offset.natAbs ≥ 86400 then none
  else if y < -262143 || y > 262142 then none
  else
    let (sec, nanos) := if sec == 60 then (59, nanos + 1000000000) else (sec, nanos)
    some ⟨daysOfDate y mo d * 86400 + (h * 3600 + mi * 60 + sec : Nat) - offset, nanos⟩

/-! ## Writing -/

/-- A number with zeros before it up to a width. -/
def padded (width n : Nat) : String :=
  let ds := toString n
  String.ofList (List.replicate (width - ds.length) '0') ++ ds

/-- A year: four digits, or a sign and at least four digits outside that range. -/
def yearText (y : Int) : String :=
  if 0 ≤ y && y ≤ 9999 then padded 4 y.natAbs
  else (if y < 0 then "-" else "+") ++ padded 4 y.natAbs

/-- A fraction of a second with three, six or nine digits, the fewest that lose nothing. -/
def fractionText (nanos : Nat) : String :=
  if nanos == 0 then ""
  else if nanos % 1000000 == 0 then "." ++ padded 3 (nanos / 1000000)
  else if nanos % 1000 == 0 then "." ++ padded 6 (nanos / 1000)
  else "." ++ padded 9 nanos

/-- An instant in universal time. -/
def render (i : Instant) : String :=
  let (y, mo, d) := dateOfDays (i.seconds / 86400)
  let ofDay := (i.seconds % 86400).toNat
  let (sec, nanos) :=
    if i.nanos ≥ 1000000000 then (ofDay % 60 + 1, i.nanos - 1000000000) else (ofDay % 60, i.nanos)
  yearText y ++ "-" ++ padded 2 mo ++ "-" ++ padded 2 d ++ "T" ++ padded 2 (ofDay / 3600) ++ ":"
    ++ padded 2 (ofDay / 60 % 60) ++ ":" ++ padded 2 sec ++ fractionText nanos ++ "Z"

end Instant

end SchemaChart.Data
