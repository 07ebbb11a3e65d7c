-- YAML values, and places in a YAML text.
import SchemaChart.Data.Record

namespace SchemaChart.Data

/-- How a scalar is written. -/
inductive Style where
  | plain
  | quoted
  | literal
  | folded
deriving Repr, DecidableEq

/-- A YAML value. A scalar gets its type from what it is asked for, and an alias stands for the
value that got its number. -/
inductive Yaml where
  | scalar (text : String) (style : Style) (tag : Option String)
  | seq (items : List Yaml)
  | map (pairs : List (Yaml × Yaml))
  | alias (number : Nat)
deriving Repr, Inhabited

namespace Yaml

/-- The scalar that stands for no text at all. -/
def nothing : Yaml := scalar "" .plain none

/-! ## Characters -/

def isSpace (c : Char) : Bool := c == ' ' || c == '\t'

/-- Does a character end a line. Line ends of other kinds are line feeds when a text is read. -/
def isBreak (c : Char) : Bool := c == '\n' || c == '\u2028' || c == '\u2029'

/-- Is this a blank or the end of a line. -/
def isGap (c : Char) : Bool := isSpace c || isBreak c

/-- Does a blank, a line end or the end of the text come next. -/
def atGap : List Char → Bool
  | [] => true
  | c :: _ => isGap c

/-- Does a line or the text end here. -/
def atLineEnd : List Char → Bool
  | [] => true
  | c :: _ => isBreak c

/-- The characters of names. -/
def isNameChar (c : Char) : Bool := c.isAlphanum || c == '_' || c == '-'

/-! ## Places in a text -/

/-- A place in a text: what follows, and how far it is from the start. -/
structure Place where
  rest : List Char
  index : Nat := 0
  line : Nat := 0
  column : Nat := 0
deriving Repr

namespace Place

/-- Moves past a character. -/
def next (p : Place) : Place :=
  match p.rest with
  | [] => p
  | c :: rest =>
    if isBreak c then { rest, index := p.index + 1, line := p.line + 1, column := 0 }
    else { p with rest, index := p.index + 1, column := p.column + 1 }

/-- Moves past `n` characters. -/
def skip : Nat → Place → Place
  | 0, p => p
  | n + 1, p => skip n p.next

/-- Moves past all characters of a kind. -/
def skipWhile (f : Char → Bool) (p : Place) : Place := p.skip (p.rest.takeWhile f).length

/-- Is this character next. -/
def has (p : Place) (c : Char) : Bool := p.rest.head? == some c

/-- Is one of these characters next. -/
def hasAny (p : Place) (s : String) : Bool := p.rest.head?.any s.toList.contains

/-- Is this mark of a document here. -/
def atMark (p : Place) (mark : String) : Bool :=
  p.column == 0 && mark.toList.isPrefixOf p.rest && atGap (p.rest.drop 3)

/-- Is a mark of a document here. -/
def atAnyMark (p : Place) : Bool := p.atMark "---" || p.atMark "..."

/-- Is an indicator followed by a blank here. -/
def atIndicator (p : Place) (c : Char) : Bool := p.has c && atGap (p.rest.drop 1)

/-- Moves past blanks and a comment to the end of the line, and past that. None if there is
something else on the line. -/
def endLine? (p : Place) : Option Place :=
  let q := p.skipWhile isSpace
  let q := if q.has '#' then q.skipWhile (!isBreak ·) else q
  if atLineEnd q.rest then some q.next else none

end Place

end Yaml

end SchemaChart.Data
