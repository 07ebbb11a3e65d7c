-- Names and constants of the strict grammar, and the form in which they are printed back.
import SchemaChart.Grammar.KeyWord
import SchemaChart.Grammar.Reader
import SchemaChart.Text.Alphabet

namespace SchemaChart.Grammar

open Reader

/-! ## Printing quoted texts -/

/-- Doubles the quotes of a text that are not already doubled or behind a backslash. The last
character that counts as standing before is carried along. -/
def escapeQuotes (q : Char) : Char → List Char → List Char
  | _, [] => []
  | prev, [c] => if c == q && prev != '\\' then [q, q] else [c]
  | prev, c :: d :: ds =>
    if c == q then
      if prev == '\\' then c :: escapeQuotes q prev (d :: ds)
      else if d == q then q :: q :: escapeQuotes q q ds
      else q :: q :: escapeQuotes q q (d :: ds)
    else c :: escapeQuotes q c (d :: ds)

/-- A text between quotes. -/
def quoteText (q : Char) (s : String) : String :=
  q.toString ++ String.ofList (escapeQuotes q (Char.ofNat 0) s.toList) ++ q.toString

/-- A text as a constant with backslash escapes. -/
def escapeControls (cs : List Char) : List Char :=
  cs.flatMap fun c =>
    match c with
    | '\'' => ['\\', '\'']
    | '\\' => ['\\', '\\']
    | '\n' => ['\\', 'n']
    | '\t' => ['\\', 't']
    | '\r' => ['\\', 'r']
    | c => [c]

/-- A number in capital hexadecimal digits, padded to a width. -/
def hexPadded (width n : Nat) : List Char :=
  let ds := (Nat.toDigits 16 n).map Char.toUpper
  List.replicate (width - ds.length) '0' ++ ds

/-- A text as a constant in which characters are named by number. -/
def escapeUnicode (cs : List Char) : List Char :=
  cs.flatMap fun c =>
    if c == '\'' then ['\'', '\'']
    else if c == '\\' then ['\\', '\\']
    else if c.toNat < 128 then [c]
    else if c.toNat ≤ 0xFFFF then '\\' :: hexPadded 4 c.toNat
    else '\\' :: '+' :: hexPadded 6 c.toNat

/-! ## Names -/

/-- An identifier with the quote it was written in. -/
structure Name where
  value : String
  quote : Option Char := none
deriving Repr, DecidableEq

def Name.render (n : Name) : String :=
  match n.quote with
  | none => n.value
  | some '[' => "[" ++ n.value ++ "]"
  | some q => quoteText q n.value

/-- Reads an identifier; a quoted constant may stand for one. -/
def identifier : Reader Name := do
  let t ← next
  match t.token with
  | .word v q _ => return ⟨v, q⟩
  | .text .single v => return ⟨v, some '\''⟩
  | .text .double v => return ⟨v, some '"'⟩
  | _ => expected "identifier" t

/-- Reads an identifier if one is ahead. -/
def identifier? : Reader (Option Name) := attempt identifier

/-- Further parts of a dotted name. -/
def objectNameRest (doubleDot : Bool) : Reader (Option Name) := do
  if ← mark "." then
    if doubleDot && (← atMark ".") then return some ⟨"", none⟩ else some <$> identifier
  else return none

/-- Reads a dotted name and gives it back as text. SQL Server may leave out the second of
several parts. -/
def objectName : Reader String := do
  let first ← identifier
  let doubleDot := (← flavor) == .sqlServer
  let second ← objectNameRest doubleDot
  match second with
  | none => return first.render
  | some second =>
    let more ← repeated (objectNameRest false)
    return ".".intercalate ((first :: second :: more).map Name.render)

/-- Passes over a dotted name. What breaks the name is passed over with it. -/
def passName : Reader Unit := do
  if (← attempt objectName).isSome then return
  let _ ← repeated do
    if (← identifier?).isSome then
      if ← mark "." then return some () else return none
    else
      let _ ← next
      return none

/-- Items in parentheses, which are called columns when they are missing. -/
def listOf (item : Reader α) : Reader (List α) := do
  if ← mark "(" then
    let items ← commaList item
    expectMark ")"
    return items
  else expectedHere "a list of columns in parentheses"

/-- Identifiers in parentheses. -/
def columnList : Reader (List String) := listOf (Name.render <$> identifier)

/-- Identifiers in parentheses, which may be left out. -/
def optionalColumnList : Reader (List String) := do
  if ← atMark "(" then columnList else return []

/-- Dotted names in parentheses. -/
def nameList : Reader (List String) := listOf objectName

/-! ## Constants -/

/-- A constant as it is printed back, and whether it is a number or a placeholder. -/
structure Constant where
  text : String
  numeric : Bool := false
deriving Repr, DecidableEq

/-- Further strings that MySQL joins to the one before. -/
def adjacentStrings : Reader (Option String) := do
  if (← flavor) != .mysql then return none
  match (← peek).token with
  | .text .single v | .text .double v =>
    let _ ← next
    return some v
  | _ => return none

/-- Reads a constant. -/
def constant : Reader Constant := do
  let t ← next
  match t.token with
  | .word v q k =>
    if k == "TRUE" && (← flavor) != .sqlServer then return ⟨"true", false⟩
    else if k == "FALSE" && (← flavor) != .sqlServer then return ⟨"false", false⟩
    else if k == "NULL" then return ⟨"NULL", false⟩
    else match q with
      | some '"' => return ⟨quoteText '"' v, false⟩
      | some _ => expected "A value?" t
      | none => expected "a concrete value" t
  | .number .. => return ⟨t.token.render, true⟩
  | .text .single v =>
    let more ← repeated adjacentStrings
    return ⟨quoteText '\'' (more.foldl (· ++ ·) v), false⟩
  | .text .double v =>
    let more ← repeated adjacentStrings
    return ⟨quoteText '"' (more.foldl (· ++ ·) v), false⟩
  | .text .escaped v => return ⟨"E'" ++ String.ofList (escapeControls v.toList) ++ "'", false⟩
  | .text .unicode v => return ⟨"U&'" ++ String.ofList (escapeUnicode v.toList) ++ "'", false⟩
  | .text .. | .dollar .. => return ⟨t.token.render, false⟩
  | .placeholder n => return ⟨n, true⟩
  | .mark ":" | .mark "@" =>
    let n ← peek
    match n.gap, n.token with
    | some gap, _ => throw (.refused ("Expected: placeholder, found: " ++ gap.text) gap.offset)
    | none, .word v _ _ | none, .number v false =>
      let _ ← next
      return ⟨t.token.render ++ v, true⟩
    | none, _ => expected "placeholder" n
  | _ => expected "a value" t

/-- Reads a string; a word that is no key word may stand for one. -/
def literalString : Reader String := do
  let t ← next
  match t.token with
  | .word v _ k => if keyWords.contains k then expected "literal string" t else return v
  | .text .single v | .text .double v | .text .unicode v => return v
  | .text .escaped v => if (← flavor) == .postgres then return v else expected "literal string" t
  | _ => expected "literal string" t

/-- The number that digits stand for, or why they stand for none that fits below the bound. -/
def parseDigits (bound : Nat) (s : String) : Except String Nat :=
  let cs := s.toList
  if cs.isEmpty || !cs.all Char.isDigit then .error "invalid digit found in string"
  else
    let n := cs.foldl (fun n c => n * 10 + (c.toNat - 48)) 0
    if n < bound then .ok n else .error "number too large to fit in target type"

/-- Reads a number without sign or fraction. -/
def literalUint : Reader Nat := do
  let t ← next
  match t.token with
  | .number s _ =>
    match parseDigits (Nat.pow 2 64) s with
    | .ok n => return n
    | .error e =>
      refuseAt ("Could not parse '" ++ s ++ "' as u64: " ++ e) t
  | _ => expected "literal int" t

/-- Reads a number without fraction, perhaps with a sign. -/
def literalInt : Reader Int := do
  let negative ← mark "-"
  unless negative do let _ ← mark "+"
  let t ← next
  match t.token with
  | .number s _ =>
    match parseDigits (Nat.pow 2 63) s with
    | .ok n => return if negative then -(n : Int) else n
    | .error e =>
      refuseAt ("Could not parse '" ++ s ++ "' as i64: " ++ e) t
  | _ => expected "number" t

/-- Reads a number or a placeholder. -/
def signlessNumber : Reader String := do
  let t ← peek
  let c ← constant
  if c.numeric then return c.text else expected "literal number" t

/-- Reads a number, perhaps with a sign, or a placeholder. -/
def signedNumber : Reader String := do
  let sign ← if ← mark "+" then pure "+" else if ← mark "-" then pure "-" else pure ""
  return sign ++ (← signlessNumber)

end SchemaChart.Grammar
