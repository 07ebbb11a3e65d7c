-- Scanning past quotes and parentheses: the closing parenthesis of a group, and the cuts of a
-- text at characters that stand outside every quote and every group.
import SchemaChart.Text.Blank
import SchemaChart.Text.Bytes

namespace SchemaChart.Text

/-! ## Quotes -/

/-- What closes a quote that `c` opens, for strings and for the two straight identifier quotes. -/
def plainQuote (c : Char) : Option Char :=
  if c == '\'' || c == '"' || c == '`' then some c else none

/-- Like `plainQuote`, and a bracket opens a quote too. -/
def anyQuote (c : Char) : Option Char := if c == '[' then some ']' else plainQuote c

/-- What closes a quoted identifier that `c` opens. -/
def nameQuote (c : Char) : Option Char :=
  if c == '"' || c == '`' then some c else if c == '[' then some ']' else none

/-! ## Cuts outside quotes and groups -/

/-- Where a scan stands: how many parentheses are open, and what closes the open quote. -/
structure Nesting where
  depth : Int := 0
  quote : Option Char := none
deriving Repr, DecidableEq

/-- What a scan respects: its quotes, and whether parentheses group. -/
structure Grouping where
  opens : Char → Option Char
  parens : Bool := true

namespace Grouping

/-- Element lists: all quotes, and parentheses. -/
def elements : Grouping := ⟨anyQuote, true⟩

/-- Words of a definition: straight quotes, and parentheses. -/
def words : Grouping := ⟨plainQuote, true⟩

/-- Qualified names: identifier quotes only. -/
def names : Grouping := ⟨nameQuote, false⟩

/-- Where the scan stands after one more character. -/
def step (g : Grouping) (n : Nesting) (c : Char) : Nesting :=
  match n.quote with
  | some q => if c == q then { n with quote := none } else n
  | none =>
    match g.opens c with
    | some q => { n with quote := some q }
    | none =>
      if g.parens && c == '(' then { n with depth := n.depth + 1 }
      else if g.parens && c == ')' then { n with depth := n.depth - 1 }
      else n

/-- Does `c` cut the text here: it is a separator outside quotes and groups, and opens or closes
neither. -/
def cuts (g : Grouping) (sep : Char → Bool) (n : Nesting) (c : Char) : Bool :=
  n.quote.isNone && n.depth == 0 && (g.opens c).isNone
    && !(g.parens && (c == '(' || c == ')')) && sep c

/-- The segments between the cuts, from a scan that stands at `n`. -/
def segments (g : Grouping) (sep : Char → Bool) (n : Nesting) : List Char → List (List Char)
  | [] => [[]]
  | c :: cs =>
    if g.cuts sep n c then [] :: g.segments sep n cs
    else consHead c (g.segments sep (g.step n c) cs)

end Grouping

/-- The parts of a text between the separators outside quotes and parentheses, trimmed, without
the empty ones. -/
def splitTopLevel (sep : Char) (cs : List Char) : List (List Char) :=
  ((Grouping.elements.segments (· == sep) {} cs).map trim).filter (!·.isEmpty)

/-- The words of a definition: blanks inside quotes and parentheses do not cut. -/
def splitWords (cs : List Char) : List (List Char) :=
  (Grouping.words.segments isBlank {} cs).filter (!·.isEmpty)

/-! ## The closing parenthesis -/

/-- How many characters stand before the parenthesis that brings the scan to depth zero. A
closing parenthesis with none open ends the search without a result. -/
def closing? : Nat → Option Char → List Char → Option Nat
  | _, _, [] => none
  | d, some q, c :: cs => (closing? d (if c == q then none else some q) cs).map (· + 1)
  | d, none, c :: cs =>
    match plainQuote c with
    | some q => (closing? d (some q) cs).map (· + 1)
    | none =>
      if c == '(' then (closing? (d + 1) none cs).map (· + 1)
      else if c == ')' then
        match d with
        | 0 => none
        | 1 => some 0
        | d + 2 => (closing? (d + 1) none cs).map (· + 1)
      else (closing? d none cs).map (· + 1)

/-- The text of a group and the text after it, from just behind its opening parenthesis. -/
def splitGroup? (cs : List Char) : Option (List Char × List Char) :=
  (closing? 1 none cs).map (fun k => (cs.take k, cs.drop (k + 1)))

/-- The text before the first group, inside it, and after it. -/
def firstGroup? (cs : List Char) : Option (List Char × List Char × List Char) :=
  match cutAt? ['('] cs with
  | none => none
  | some (before, rest) =>
    (splitGroup? (rest.drop 1)).map (fun (ins, after) => (before, ins, after))

/-- The byte offset of the parenthesis that closes the one at byte offset `start`. -/
def closingParen? (s : String) (start : Nat) : Option Nat :=
  let (offset, cs) := fromByte start 0 s.toList
  (closing? 0 none cs).map (fun k => offset + byteSize (cs.take k))

end SchemaChart.Text
