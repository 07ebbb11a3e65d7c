-- Identifiers and string literals as scripts write them: unquoting, qualified names, and lists
-- of columns.
import SchemaChart.Text.LetterCase
import SchemaChart.Text.Nesting

namespace SchemaChart.Text

/-- Strips one level of quoting between `open_` and `close`, if the text has it. -/
def unquoteWith? (open_ close : Char) (cs : List Char) : Option (List Char) :=
  match cs with
  | c :: d :: ds =>
    if c == open_ && (d :: ds).getLast? == some close then
      some (undouble close (d :: ds).dropLast)
    else none
  | _ => none

/-- Strips one level of identifier quoting, whichever of the three kinds it is. -/
def unquoteIdentifier (cs : List Char) : List Char :=
  let cs := trim cs
  (unquoteWith? '"' '"' cs <|> unquoteWith? '`' '`' cs <|> unquoteWith? '[' ']' cs).getD cs

/-- The unquoted parts of a qualified name; dots inside quotes do not cut. -/
def splitQualified (cs : List Char) : List (List Char) :=
  ((Grouping.names.segments (· == '.') {} (trim cs)).map unquoteIdentifier).filter (!·.isEmpty)

/-- Words that may follow a column in a key list. -/
def isSortWord (w : List Char) : Bool :=
  ["ASC", "DESC", "NULLS", "FIRST", "LAST"].contains (String.ofList (upper w))

/-- Drops the sort words at the end of a key, but never its first word. -/
def dropSortWords (ws : List (List Char)) : List (List Char) :=
  match ws with
  | [] => []
  | w :: rest => w :: (rest.reverse.dropWhile isSortWord).reverse

/-- The columns of a list, unquoted and without their sort order. -/
def splitIdentifiers (cs : List Char) : List (List Char) :=
  ((splitTopLevel ',' cs).map
    (fun part => unquoteIdentifier (unwords (dropSortWords (words part))))).filter (!·.isEmpty)

/-- The text of a string literal, which may carry the mark `N` or `E` before its quote. -/
def unquoteLiteral? (cs : List Char) : Option (List Char) :=
  let cs := trim cs
  let body := match cs with
    | m :: '\'' :: rest => if m == 'N' || m == 'n' || m == 'E' || m == 'e' then '\'' :: rest else cs
    | _ => cs
  unquoteWith? '\'' '\'' body

/-- A text as a string literal: a quote inside is written twice. -/
def quoteLiteral (s : String) : String := "'" ++ String.ofList (double '\'' s.toList) ++ "'"

/-- Equality of names up to the case of the letters A to Z. -/
def sameName (a b : String) : Bool := eqIgnoringCase a.toList b.toList

end SchemaChart.Text
