-- Blank characters, and the cuts that a text is given at them.

namespace SchemaChart.Text

/-- Blank characters of the character standard: the space, the controls from tab to carriage
return, and the other spaces and line ends. The byte order mark and the zero-width space are
not blank. -/
def isBlank (c : Char) : Bool :=
  let n := c.toNat
  n == 32 || (9 ≤ n && n ≤ 13) || n == 0x85 || n == 0xA0 || n == 0x1680
    || (0x2000 ≤ n && n ≤ 0x200A) || n == 0x2028 || n == 0x2029 || n == 0x202F || n == 0x205F
    || n == 0x3000

/-! ## Ends of a text -/

def trimStart (cs : List Char) : List Char := cs.dropWhile isBlank

def trimEnd (cs : List Char) : List Char := (cs.reverse.dropWhile isBlank).reverse

def trim (cs : List Char) : List Char := trimEnd (trimStart cs)

/-- Drops every `c` at the end of a text. -/
def trimEndOf (c : Char) (cs : List Char) : List Char := (cs.reverse.dropWhile (· == c)).reverse

/-- What is left of `cs` after `head`, if it starts with it. -/
def dropHead? : List Char → List Char → Option (List Char)
  | [], cs => some cs
  | _ :: _, [] => none
  | h :: hs, c :: cs => if h == c then dropHead? hs cs else none

/-- What is left of `cs` before `tail`, if it ends with it. -/
def dropTail? (tail cs : List Char) : Option (List Char) :=
  (dropHead? tail.reverse cs.reverse).map List.reverse

def startsWith (cs : List Char) (head : String) : Bool := (dropHead? head.toList cs).isSome

def endsWith (cs : List Char) (tail : String) : Bool := (dropTail? tail.toList cs).isSome

/-- The text before the first occurrence of `part` and the text from it on. -/
def cutAt? (part : List Char) : List Char → Option (List Char × List Char)
  | [] => if part.isEmpty then some ([], []) else none
  | c :: cs =>
    if part.isPrefixOf (c :: cs) then some ([], c :: cs)
    else (cutAt? part cs).map (fun (before, rest) => (c :: before, rest))

/-- Does `part` occur in the text. -/
def holds (cs : List Char) (part : String) : Bool := (cutAt? part.toList cs).isSome

/-! ## Pieces -/

/-- Puts a character in front of the first piece. -/
def consHead (c : Char) : List (List Char) → List (List Char)
  | [] => [[c]]
  | p :: ps => (c :: p) :: ps

/-- The pieces between the characters that `cut` picks, empty ones included. -/
def pieces (cut : Char → Bool) : List Char → List (List Char)
  | [] => [[]]
  | c :: cs => if cut c then [] :: pieces cut cs else consHead c (pieces cut cs)

/-- The words between blanks. -/
def words (cs : List Char) : List (List Char) := (pieces isBlank cs).filter (!·.isEmpty)

/-- Words with one space between each two. -/
def unwords (ws : List (List Char)) : List Char := [' '].intercalate ws

/-- Every run of blanks becomes one space; none stays at the ends. -/
def collapse (cs : List Char) : List Char := unwords (words cs)

/-- Drops the carriage return that ends a line. -/
def dropReturn (cs : List Char) : List Char := (dropTail? ['\r'] cs).getD cs

/-- The lines of a text. A line end is a line feed, with the carriage return before it if there
is one; a line end at the very end of the text opens no further line. -/
def lines (cs : List Char) : List (List Char) :=
  match (pieces (· == '\n') cs).reverse with
  | [] => []
  | last :: before =>
    (if last.isEmpty then before.map dropReturn else last :: before.map dropReturn).reverse

/-! ## Quote characters -/

/-- Every `q` is written twice. -/
def double (q : Char) (cs : List Char) : List Char :=
  cs.flatMap (fun c => if c == q then [q, q] else [c])

/-- Every two `q` in a row are read as one, from the left. -/
def undouble (q : Char) : List Char → List Char
  | [] => []
  | [c] => [c]
  | c :: d :: cs =>
    if c == q && d == q then q :: undouble q cs else c :: undouble q (d :: cs)

end SchemaChart.Text
