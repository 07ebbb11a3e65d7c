-- JSON values: reading, and writing on one line or indented.
import SchemaChart.Data.Binary64

namespace SchemaChart.Data

/-- A number of a JSON text: an integer of 64 bits, or any other number. -/
inductive Json.Number where
  | int (n : Int)
  | real (x : Binary64)
deriving Repr, DecidableEq, Inhabited

/-- A JSON value. The fields of an object keep their order. An unreadable value has the form of one
but nothing can be made of it: a number that is too large, a string with half of a surrogate pair,
or an object with such a name. -/
inductive Json where
  | null
  | bool (b : Bool)
  | num (n : Json.Number)
  | str (s : String)
  | arr (items : List Json)
  | obj (fields : List (String × Json))
  | unreadable
deriving Repr, Inhabited

namespace Json

/-! ## Writing -/

/-- A digit of a hexadecimal number. -/
def hexDigit (n : Nat) : Char := ("0123456789abcdef".toList[n]?).getD '0'

/-- A character inside a string. -/
def escapeChar (c : Char) : List Char :=
  match c with
  | '"' => ['\\', '"']
  | '\\' => ['\\', '\\']
  | '\n' => ['\\', 'n']
  | '\r' => ['\\', 'r']
  | '\t' => ['\\', 't']
  | c =>
    if c.toNat == 8 then ['\\', 'b']
    else if c.toNat == 12 then ['\\', 'f']
    else if c.toNat < 0x20 then
      ['\\', 'u', '0', '0', hexDigit (c.toNat / 16), hexDigit (c.toNat % 16)]
    else [c]

/-- A string with its quotes. -/
def quote (s : String) : String := "\"" ++ String.ofList (s.toList.flatMap escapeChar) ++ "\""

/-- Zeros. -/
def zeros (n : Nat) : String := String.ofList (List.replicate n '0')

/-- Digits and the power of ten of the last one, laid out: positionally while the point stands
at most sixteen digits behind the first digit and at most five before it, and else with an
exponent, which has a sign. -/
def layOut (digits : Nat) (p : Int) : String :=
  let ds := toString digits
  let size := ds.length
  let point : Int := size + p
  if p ≥ 0 && point ≤ 16 then ds ++ zeros p.toNat ++ ".0"
  else if point > 0 && point ≤ 16 then
    String.ofList (ds.toList.take point.toNat) ++ "." ++ String.ofList (ds.toList.drop point.toNat)
  else if point > -5 && point ≤ 0 then "0." ++ zeros (-point).toNat ++ ds
  else
    let part := if size == 1 then "" else "." ++ String.ofList (ds.toList.drop 1)
    String.ofList (ds.toList.take 1) ++ part ++ "e" ++ (if point > 0 then "+" else "")
      ++ toString (point - 1)

/-- A number as text; what is not finite is written as null. -/
def Number.render : Number → String
  | int n => toString n
  | real (.finite negative m e) =>
    let (digits, p) := Binary64.shortest m e
    (if negative then "-" else "") ++ layOut digits p
  | real _ => "null"

mutual

/-- A value on one line, without blanks. An unreadable one is written as null. -/
def compact : Json → String
  | null | unreadable => "null"
  | bool b => if b then "true" else "false"
  | num n => n.render
  | str s => quote s
  | arr items => "[" ++ compactItems true items ++ "]"
  | obj fields => "\x7b" ++ compactFields true fields ++ "\x7d"

def compactItems (first : Bool) : List Json → String
  | [] => ""
  | j :: js => (if first then "" else ",") ++ compact j ++ compactItems false js

def compactFields (first : Bool) : List (String × Json) → String
  | [] => ""
  | (k, j) :: fs =>
    (if first then "" else ",") ++ quote k ++ ":" ++ compact j ++ compactFields false fs

end

/-- A line end and the indentation of a level. -/
def newLine (level : Nat) : String := "\n" ++ String.ofList (List.replicate (2 * level) ' ')

mutual

/-- A value over several lines, each level indented by two more spaces. -/
def pretty (level : Nat) : Json → String
  | null | unreadable => "null"
  | bool b => if b then "true" else "false"
  | num n => n.render
  | str s => quote s
  | arr [] => "[]"
  | arr (j :: js) =>
    "[" ++ newLine (level + 1) ++ pretty (level + 1) j ++ prettyItems (level + 1) js
      ++ newLine level ++ "]"
  | obj [] => "\x7b\x7d"
  | obj ((k, j) :: fs) =>
    "\x7b" ++ newLine (level + 1) ++ quote k ++ ": " ++ pretty (level + 1) j
      ++ prettyFields (level + 1) fs ++ newLine level ++ "\x7d"

def prettyItems (level : Nat) : List Json → String
  | [] => ""
  | j :: js => "," ++ newLine level ++ pretty level j ++ prettyItems level js

def prettyFields (level : Nat) : List (String × Json) → String
  | [] => ""
  | (k, j) :: fs =>
    "," ++ newLine level ++ quote k ++ ": " ++ pretty level j ++ prettyFields level fs

end

/-! ## Reading -/

def skipBlanks (cs : List Char) : List Char :=
  cs.dropWhile (fun c => c == ' ' || c == '\n' || c == '\t' || c == '\r')

/-- The value of a hexadecimal digit. -/
def hexValue? (c : Char) : Option Nat :=
  if c.isDigit then some (c.toNat - '0'.toNat)
  else if 'a' ≤ c && c ≤ 'f' then some (c.toNat - 'a'.toNat + 10)
  else if 'A' ≤ c && c ≤ 'F' then some (c.toNat - 'A'.toNat + 10)
  else none

/-- The value of four hexadecimal digits. -/
def hex4? (a b c d : Char) : Option Nat := do
  return 4096 * (← hexValue? a) + 256 * (← hexValue? b) + 16 * (← hexValue? c) + (← hexValue? d)

/-- What a letter behind a backslash stands for. -/
def shortEscape? : Char → Option Char
  | '"' => some '"'
  | '\\' => some '\\'
  | '/' => some '/'
  | 'b' => some (Char.ofNat 8)
  | 'f' => some (Char.ofNat 12)
  | 'n' => some '\n'
  | 'r' => some '\r'
  | 't' => some '\t'
  | _ => none

def isHighSurrogate (n : Nat) : Bool := 0xD800 ≤ n && n ≤ 0xDBFF

def isLowSurrogate (n : Nat) : Bool := 0xDC00 ≤ n && n ≤ 0xDFFF

/-- A piece of a string: a character, or half of a surrogate pair. -/
inductive Piece where
  | char (c : Char)
  | half (n : Nat)
deriving Repr, DecidableEq

/-- The piece that a number stands for. -/
def Piece.ofNat (n : Nat) : Piece :=
  if isHighSurrogate n || isLowSurrogate n then half n else char (Char.ofNat n)

/-- The text of pieces. Two halves make a character; one that stands alone makes no text. -/
def textOf? : List Piece → Option (List Char)
  | [] => some []
  | .char c :: ps => (textOf? ps).map (c :: ·)
  | .half n :: .half m :: ps =>
    if isHighSurrogate n && isLowSurrogate m then
      (textOf? ps).map (Char.ofNat (0x10000 + (n - 0xD800) * 0x400 + (m - 0xDC00)) :: ·)
    else none
  | .half _ :: _ => none

/-- The pieces of a string, from behind its opening quote, and the text behind the string. -/
def stringRest : List Char → Option (List Piece × List Char)
  | [] => none
  | '"' :: cs => some ([], cs)
  | '\\' :: 'u' :: a :: b :: c :: d :: cs =>
    match hex4? a b c d with
    | none => none
    | some n => (stringRest cs).map (fun (ps, r) => (.ofNat n :: ps, r))
  | '\\' :: e :: cs =>
    match shortEscape? e with
    | some c => (stringRest cs).map (fun (ps, r) => (.char c :: ps, r))
    | none => none
  | c :: cs =>
    if c == '\\' || c.toNat < 0x20 then none
    else (stringRest cs).map (fun (ps, r) => (.char c :: ps, r))

/-- A string of these pieces. -/
def ofPieces (ps : List Piece) : Json :=
  match textOf? ps with
  | some cs => str (String.ofList cs)
  | none => unreadable

/-- An object of these fields. -/
def ofFields (fields : List (List Piece × Json)) : Json :=
  match fields.mapM (fun (ps, j) => (textOf? ps).map (fun cs => (String.ofList cs, j))) with
  | some fs => obj fs
  | none => unreadable

/-- The number that digits stand for. -/
def natOfDigits (ds : List Char) : Nat := ds.foldl (fun n d => 10 * n + (d.toNat - '0'.toNat)) 0

/-- The digits at the start of a text and the text behind them. -/
def takeDigits (cs : List Char) : List Char × List Char := cs.span Char.isDigit

/-- The exponent behind a number, if there is one; it must have digits. -/
def exponent? (cs : List Char) : Option (Option Int × List Char) :=
  match cs with
  | [] => some (none, [])
  | c :: rest =>
    if c == 'e' || c == 'E' then
      let (negative, rest) := match rest with
        | '-' :: r => (true, r)
        | '+' :: r => (false, r)
        | r => (false, r)
      match takeDigits rest with
      | ([], _) => none
      | (ds, r) =>
        let n : Int := natOfDigits ds
        some (some (if negative then -n else n), r)
    else some (none, c :: rest)

/-- The fraction behind a number, if there is one; it must have digits. -/
def fraction? (cs : List Char) : Option (List Char × List Char) :=
  match cs with
  | '.' :: rest =>
    match takeDigits rest with
    | ([], _) => none
    | (ds, r) => some (ds, r)
  | _ => some ([], cs)

/-- The number `n` with digits appended while it has 64 bits, and how many there are. -/
def append (n : Nat) : List Char → Nat × Nat
  | [] => (n, 0)
  | d :: ds =>
    let m := 10 * n + (d.toNat - '0'.toNat)
    if m < Nat.pow 2 64 then
      let (r, k) := append m ds
      (r, k + 1)
    else (n, 0)

/-- The number of a literal with a fraction or an exponent, or with more than 64 bits. The digits
that fit are rounded, and then the result times its power of ten. -/
def realNumber (negative : Bool) (whole part : List Char) (e : Int) : Number :=
  let (n, i) := append 0 whole
  let (n, k) := append n part
  .real (Binary64.shift 4 (.round negative n 1) (e + whole.length - i - k))

/-- The number of an integer literal: an integer if it has 64 bits. A zero with a sign is none. -/
def integerNumber (negative : Bool) (ds : List Char) : Number :=
  let n := natOfDigits ds
  if negative && 0 < n && n ≤ Nat.pow 2 63 then .int (-(n : Int))
  else if !negative && n < Nat.pow 2 64 then .int n
  else realNumber negative ds [] 0

/-- A number, from behind its sign. It has no leading zeros; one that is too large is infinite. -/
def number? (negative : Bool) (cs : List Char) : Option (Number × List Char) := do
  let (whole, rest) := takeDigits cs
  if whole.isEmpty || (whole.head? == some '0' && whole.length > 1) then none
  else
    let (part, rest) ← fraction? rest
    let (e, rest) ← exponent? rest
    if part.isEmpty && e.isNone then some (integerNumber negative whole, rest)
    else some (realNumber negative whole part (e.getD 0), rest)

/-- A number, unless it is too large. -/
def ofNumber : Number → Json
  | .real (.infinite _) => unreadable
  | n => num n

/-- The items of an array, from the first one on, and the text behind the array; `value` reads
one item. The first argument bounds their number. -/
def itemsRest (value : List Char → Option (Json × List Char)) :
    Nat → List Char → Option (List Json × List Char)
  | 0, _ => none
  | k + 1, cs => do
    let (j, rest) ← value cs
    match skipBlanks rest with
    | ']' :: rest => some ([j], rest)
    | ',' :: rest =>
      let (js, rest) ← itemsRest value k rest
      some (j :: js, rest)
    | _ => none

/-- The fields of an object, from the first one on, and the text behind the object; `value` reads
one value. The first argument bounds their number. -/
def fieldsRest (value : List Char → Option (Json × List Char)) :
    Nat → List Char → Option (List (List Piece × Json) × List Char)
  | 0, _ => none
  | k + 1, cs => do
    match skipBlanks cs with
    | '"' :: rest =>
      let (key, rest) ← stringRest rest
      match skipBlanks rest with
      | ':' :: rest =>
        let (j, rest) ← value rest
        let field := (key, j)
        match skipBlanks rest with
        | '}' :: rest => some ([field], rest)
        | ',' :: rest =>
          let (fs, rest) ← fieldsRest value k rest
          some (field :: fs, rest)
        | _ => none
      | _ => none
    | _ => none

/-- The text behind a word. -/
def afterWord? (word : String) (cs : List Char) : Option (List Char) :=
  if word.toList.isPrefixOf cs then some (cs.drop word.length) else none

/-- Reads a value of at most `depth` levels, and the text behind it. -/
def value (depth : Nat) (cs : List Char) : Option (Json × List Char) :=
  match depth with
  | 0 => none
  | depth + 1 =>
    match skipBlanks cs with
    | '"' :: rest => (stringRest rest).map (fun (ps, r) => (ofPieces ps, r))
    | '[' :: rest =>
      match skipBlanks rest with
      | ']' :: rest => some (arr [], rest)
      | _ => (itemsRest (value depth) rest.length rest).map (fun (js, r) => (arr js, r))
    | '{' :: rest =>
      match skipBlanks rest with
      | '}' :: rest => some (obj [], rest)
      | _ => (fieldsRest (value depth) rest.length rest).map (fun (fs, r) => (ofFields fs, r))
    | '-' :: rest => (number? true rest).map (fun (n, r) => (ofNumber n, r))
    | cs =>
      ((afterWord? "null" cs).map (fun r => (null, r)))
        <|> ((afterWord? "true" cs).map (fun r => (bool true, r)))
        <|> ((afterWord? "false" cs).map (fun r => (bool false, r)))
        <|> ((number? false cs).map (fun (n, r) => (ofNumber n, r)))

/-- Reads a text that is one value, with blanks around it or without. The levels of a value are
no more than its characters. -/
def parse? (s : String) : Option Json :=
  match value (s.length + 1) s.toList with
  | some (j, rest) => if (skipBlanks rest).isEmpty then some j else none
  | none => none

/-! ## Looking inside -/

/-- The last field of a name, if the value is an object that has one. -/
def field? (j : Json) (name : String) : Option Json :=
  match j with
  | obj fs => fs.reverse.lookup name
  | _ => none

end Json

end SchemaChart.Data
