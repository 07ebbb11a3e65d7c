-- Patterns over texts: a small language of character classes, sequences, choices and
-- repetitions, matched from the left with the earlier choice preferred.
import SchemaChart.Text.Alphabet
import SchemaChart.Text.Blank
import SchemaChart.Text.LetterCase

namespace SchemaChart.Text

/-- A pattern. Choices are ordered; a greedy repetition prefers more, a lazy one less. -/
inductive Pattern where
  /-- Matches nothing at all, anywhere. -/
  | empty
  /-- One character of a class. -/
  | one (cls : Char → Bool)
  | seq (a b : Pattern)
  | alt (a b : Pattern)
  /-- Any number of characters of a class. -/
  | run (greedy : Bool) (cls : Char → Bool)
  /-- Any number of repetitions of a pattern that takes at least one character. -/
  | many (a : Pattern)
  /-- Remembers under a name what the pattern took. -/
  | group (name : String) (a : Pattern)
  /-- An edge between a word character and something else. -/
  | edge
  | textStart
  | textEnd
  | lineStart
  | lineEnd

/-- Where a match stands: the character before, the text ahead, how many characters the match
has taken, and what its groups hold. -/
structure Cursor where
  prev : Option Char
  rest : List Char
  taken : Nat := 0
  groups : List (String × List Char) := []

namespace Cursor

/-- Moves past one character. -/
def past (c : Cursor) (d : Char) (rest : List Char) : Cursor :=
  { c with prev := some d, rest := rest, taken := c.taken + 1 }

/-- Is there a word character on exactly one side. -/
def atEdge (c : Cursor) : Bool :=
  c.prev.any isWordChar != c.rest.head?.any isWordChar

end Cursor

namespace Pattern

instance : Append Pattern := ⟨seq⟩

instance : OrElse Pattern := ⟨fun a b => alt a (b ())⟩

/-! ## Matching -/

/-- Characters of a class, as many as possible first. -/
def runGreedy (cls : Char → Bool) (k : Cursor → Option Cursor) (c : Cursor) :
    List Char → Option Cursor
  | [] => k c
  | d :: ds =>
    if cls d then
      match runGreedy cls k (c.past d ds) ds with
      | some e => some e
      | none => k c
    else k c

/-- Characters of a class, as few as possible first. -/
def runLazy (cls : Char → Bool) (k : Cursor → Option Cursor) (c : Cursor) :
    List Char → Option Cursor
  | [] => k c
  | d :: ds =>
    match k c with
    | some e => some e
    | none => if cls d then runLazy cls k (c.past d ds) ds else none

/-- At most `n` repetitions, as many as possible first. -/
def upTo (body : (Cursor → Option Cursor) → Cursor → Option Cursor) (k : Cursor → Option Cursor) :
    Nat → Cursor → Option Cursor
  | 0, c => k c
  | n + 1, c =>
    match body (upTo body k n) c with
    | some e => some e
    | none => k c

/-- Matches a pattern at a cursor and then what `k` asks for. -/
def go : Pattern → (Cursor → Option Cursor) → Cursor → Option Cursor
  | empty => fun k c => k c
  | one cls => fun k c =>
    match c.rest with
    | [] => none
    | d :: ds => if cls d then k (c.past d ds) else none
  | seq a b => fun k c => go a (go b k) c
  | alt a b => fun k c =>
    match go a k c with
    | some e => some e
    | none => go b k c
  | run true cls => fun k c => runGreedy cls k c c.rest
  | run false cls => fun k c => runLazy cls k c c.rest
  | many a => fun k c => upTo (go a) k c.rest.length c
  | group name a => fun k c =>
    go a (fun e => k { e with groups := (name, c.rest.take (e.taken - c.taken)) :: e.groups }) c
  | edge => fun k c => if c.atEdge then k c else none
  | textStart => fun k c => if c.prev.isNone then k c else none
  | textEnd => fun k c => if c.rest.isEmpty then k c else none
  | lineStart => fun k c => if c.prev.all (· == '\n') then k c else none
  | lineEnd => fun k c => if c.rest.head?.all (· == '\n') then k c else none

/-- A match: the text before it, what it took, the text after it, and its groups. -/
structure Found where
  before : List Char
  taken : List Char
  after : List Char
  last : Option Char
  groups : List (String × List Char)

/-- What a group took, if the match went through it. -/
def Found.group? (f : Found) (name : String) : Option (List Char) := f.groups.lookup name

/-- What a group took; nothing if the match did not go through it. -/
def Found.group (f : Found) (name : String) : List Char := (f.group? name).getD []

/-- The leftmost match, from a place with `prev` before it; `passed` is the text already passed
over, last character first. -/
def findFrom (p : Pattern) (prev : Option Char) (passed : List Char) (cs : List Char) :
    Option Found :=
  match p.go some { prev := prev, rest := cs } with
  | some c => some ⟨passed.reverse, cs.take c.taken, c.rest, c.prev, c.groups⟩
  | none =>
    match cs with
    | [] => none
    | d :: ds => findFrom p (some d) (d :: passed) ds

/-- The leftmost match in a text. -/
def find? (p : Pattern) (cs : List Char) : Option Found := p.findFrom none [] cs

/-- Does the pattern match somewhere in the text. -/
def occursIn (p : Pattern) (cs : List Char) : Bool := (p.find? cs).isSome

/-- The matches from left to right that do not overlap, at most `n` of them. -/
def allFrom (p : Pattern) : Nat → Option Char → List Char → List Found
  | 0, _, _ => []
  | n + 1, prev, cs =>
    match p.findFrom prev [] cs with
    | none => []
    | some f => f :: allFrom p n f.last f.after

/-- How often the pattern matches without overlap. -/
def count (p : Pattern) (cs : List Char) : Nat := (p.allFrom cs.length none cs).length

/-- Replaces every match by what `f` makes of it. -/
def replaceAll (p : Pattern) (f : Found → List Char) (cs : List Char) : List Char :=
  let found := p.allFrom cs.length none cs
  match found.getLast? with
  | none => cs
  | some last => found.flatMap (fun m => m.before ++ f m) ++ last.after

/-- Replaces the first match by what `f` makes of it. -/
def replaceFirst (p : Pattern) (f : Found → List Char) (cs : List Char) : List Char :=
  match p.find? cs with
  | none => cs
  | some m => m.before ++ f m ++ m.after

/-! ## Building patterns -/

/-- A pattern or nothing, the pattern preferred. -/
def opt (p : Pattern) : Pattern := p <|> empty

/-- One or more characters of a class, more preferred. -/
def some1 (cls : Char → Bool) : Pattern := one cls ++ run true cls

/-- Any number of blanks. -/
def gap : Pattern := run true isBlank

/-- One or more blanks. -/
def blanks : Pattern := some1 isBlank

/-- Characters exactly as written. -/
def lit (s : String) : Pattern := s.toList.foldr (fun c p => one (· == c) ++ p) empty

/-- Key words in either case; a space stands for one or more blanks. -/
def phrase (s : String) : Pattern :=
  s.toList.foldr (fun c p => (if c == ' ' then blanks else one (sameLetter c)) ++ p) empty

/-- The first of several phrases that leads to a match. -/
def oneOf : List String → Pattern
  | [] => empty
  | [s] => phrase s
  | s :: ss => phrase s <|> oneOf ss

/-- Any text, as long as possible. -/
def rest : Pattern := run true (fun _ => true)

/-- Any text without a line feed, as long as possible. -/
def restOfLine : Pattern := run true (· != '\n')

/-- The text of a string with doubled quotes, quotes included. -/
def quotedText : Pattern :=
  lit "'" ++ many (one (· != '\'') <|> lit "''") ++ lit "'"

/-- An identifier: quoted in one of three ways, or a bare word. -/
def identifier : Pattern :=
  let insideQuotes := one (· != '"') <|> lit "\"\""
  (lit "\"" ++ insideQuotes ++ many insideQuotes ++ lit "\"")
    <|> (lit "`" ++ some1 (· != '`') ++ lit "`")
    <|> (lit "[" ++ some1 (· != ']') ++ lit "]")
    <|> some1 (fun c => isWordChar c || c == '$' || c == '#' || c == '@')

/-- One to three identifiers with dots between them, blanks allowed around the dots. -/
def qualifiedName : Pattern :=
  let further := gap ++ lit "." ++ gap ++ identifier
  identifier ++ opt (further ++ opt further)

end Pattern

end SchemaChart.Text
