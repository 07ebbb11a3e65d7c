-- Tokens of the strict grammar, with the place where each was found and the text that error
-- messages show for it.
import SchemaChart.Text.LetterCase

namespace SchemaChart.Grammar

/-- The four ways in which scripts are written. MySQL and MariaDB share one. -/
inductive Flavor where
  | postgres
  | mysql
  | sqlServer
  | sqlite
deriving Repr, DecidableEq

/-- The kinds of quoted constants. -/
inductive Quoted where
  | single
  | double
  | national
  | escaped
  | unicode
  | hex
  | bits
  | doubleBits
deriving Repr, DecidableEq

inductive Token where
  /-- A word; `key` is its upper case if it was written without quotes, and empty otherwise. -/
  | word (value : String) (quote : Option Char) (key : String)
  /-- A number, perhaps with the mark `L` behind it. -/
  | number (digits : String) (long : Bool)
  | text (kind : Quoted) (value : String)
  /-- A constant between dollar tags. -/
  | dollar (tag : Option String) (value : String)
  | placeholder (name : String)
  /-- An operator or a punctuation mark. -/
  | mark (symbol : String)
  /-- Any other character. -/
  | other (c : Char)
  | ending
deriving Repr, DecidableEq

namespace Token

/-- A word written without quotes. -/
def bare (value : String) : Token :=
  word value none (String.ofList (Text.upper value.toList))

/-- The closing quote for an opening one. -/
def closingQuote (q : Char) : Char := if q == '[' then ']' else q

/-- The token as error messages show it. -/
def render : Token → String
  | word v none _ => v
  | word v (some q) _ => q.toString ++ v ++ (closingQuote q).toString
  | number d long => if long then d ++ "L" else d
  | text .single v => "'" ++ v ++ "'"
  | text .double v => "\"" ++ v ++ "\""
  | text .national v => "N'" ++ v ++ "'"
  | text .escaped v => "E'" ++ v ++ "'"
  | text .unicode v => "U&'" ++ v ++ "'"
  | text .hex v => "X'" ++ v ++ "'"
  | text .bits v => "B'" ++ v ++ "'"
  | text .doubleBits v => "B\"" ++ v ++ "\""
  | dollar none v => "$$" ++ v ++ "$$"
  | dollar (some t) v => "$" ++ t ++ "$" ++ v ++ "$" ++ t ++ "$"
  | placeholder n => n
  | mark s => s
  | other c => c.toString
  | ending => "EOF"

/-- Is the token this key word, written without quotes. -/
def isKey (t : Token) (k : String) : Bool :=
  match t with
  | word _ _ key => key == k
  | _ => false

end Token

/-- A line and a column, both counted from one. -/
structure Place where
  line : Nat := 1
  column : Nat := 1
deriving Repr, DecidableEq

namespace Place

/-- The place behind a character. -/
def past (p : Place) (c : Char) : Place :=
  if c == '\n' then ⟨p.line + 1, 1⟩ else ⟨p.line, p.column + 1⟩

/-- The place behind a text. -/
def pastAll (p : Place) (cs : List Char) : Place := cs.foldl past p

/-- The place in a text behind so many characters. -/
def ofOffset (cs : List Char) (n : Nat) : Place := ({} : Place).pastAll (cs.take n)

def render (p : Place) : String :=
  " at Line: " ++ toString p.line ++ ", Column: " ++ toString p.column

end Place

/-- The blank or comment that follows something, as error messages show it, and the number of
characters before it. -/
structure Gap where
  text : String
  offset : Nat
deriving Repr, DecidableEq

/-- A token, the number of characters before it, and the first blank or comment between it and the
token before. The end of the text has no place of its own. -/
structure Located where
  token : Token
  offset : Option Nat := none
  gap : Option Gap := none
deriving Repr, DecidableEq

/-- The end of the text, as a token. -/
def Located.ending : Located := { token := .ending }

end SchemaChart.Grammar
