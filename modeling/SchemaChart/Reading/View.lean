-- View definitions. The columns are those that are listed, or else those of the query.
import SchemaChart.Schema.Writing
import SchemaChart.Source

namespace SchemaChart.Reading

open Text
open Schema (Column Table TableRef Writing)
open Schema.Writing (addTable refuse)

/-! ## The columns of a query -/

/-- Does the text before a key word keep it apart, by the last byte there. -/
def freeBefore (before : Option Char) : Bool :=
  before.all (fun c => !isAlphanumeric (Char.ofNat (lastByte c)))

/-- Does the text behind a key word keep it apart, by the first byte there. -/
def freeBehind (behind : List Char) : Bool :=
  behind.head?.all (fun c => !isAlphanumeric (Char.ofNat (firstByte c)) && c != '_')

/-- The text before the first `FROM` outside quotes and parentheses; all of it if there is none.
A letter F with fewer than four bytes behind it, or with a character that reaches beyond the
fourth, ends the search. -/
def beforeFrom (n : Nesting) (before : Option Char) : List Char → Option (List Char)
  | [] => none
  | c :: cs =>
    if n.quote.isNone && n.depth == 0 && (c == 'F' || c == 'f') then
      match splitBytes? 4 (c :: cs) with
      | none => none
      | some (word, behind) =>
        if eqIgnoringCase word "FROM".toList && freeBefore before && freeBehind behind then some []
        else (beforeFrom n (some c) cs).map (c :: ·)
    else (beforeFrom (Grouping.words.step n c) (some c) cs).map (c :: ·)

/-- Is a word an operator. -/
def isOperator (w : List Char) : Bool :=
  w.all ("+-*/%|=<>!&^~:".contains ·)
    || ["AND", "OR", "NOT", "IS", "THEN", "ELSE", "WHEN", "CASE", "IN", "LIKE"].contains
      (String.ofList w)

/-- The name of one item of a selection: its alias, or the function it calls, or the column. A
star has none. -/
def itemName? (item : List Char) : Option (List Char) :=
  let plain : Option (List Char) :=
    match cutAt? ['('] item with
    | some (before, _) => some (lower (trim before))
    | none => (splitQualified item).getLast?
  match (splitWords item).reverse with
  | [] => none
  | last :: before =>
    if last.getLast? == some '*' then none
    else
      match before with
      | [] => plain
      | previous :: _ =>
        let previous := upper previous
        let isName := !last.contains '(' && !last.contains '\''
        if previous == "AS".toList || (isName && !isOperator previous) then
          some (unquoteIdentifier last)
        else plain

/-- What a query selects, from behind `SELECT`. The key word is looked for in capitals, and taken
off as six bytes: a letter whose capital takes fewer bytes may reach beyond them. -/
def selection? (query : List Char) : Except Fault (Option (List Char)) :=
  let text := trimStart ((trim query).dropWhile (· == '('))
  if startsWith (upper text) "SELECT" then
    match splitBytes? 6 text with
    | none => .error .cutCharacter
    | some (_, behind) =>
      let selected := trimStart behind
      let selected :=
        if eqIgnoringCase (selected.take 9) "DISTINCT ".toList then selected.drop 9 else selected
      .ok (some ((beforeFrom {} none selected).getD selected))
  else .ok none

/-- The names of the columns that a query gives. -/
def projectionNames (query : List Char) : Except Fault (List (List Char)) := do
  match ← selection? query with
  | none => return []
  | some items => return (splitTopLevel ',' items).filterMap itemName?

/-! ## Views -/

/-- A view definition. -/
def viewStatement : Pattern :=
  open Pattern in
  textStart ++ gap ++ phrase "CREATE " ++ opt (phrase "OR REPLACE ")
    ++ opt (phrase "ALGORITHM" ++ gap ++ lit "=" ++ gap ++ some1 isWordChar ++ blanks)
    ++ opt (phrase "DEFINER" ++ gap ++ lit "=" ++ gap ++ some1 (!isBlank ·) ++ blanks)
    ++ opt (phrase "SQL SECURITY " ++ some1 isWordChar ++ blanks)
    ++ opt (oneOf ["TEMP", "TEMPORARY"] ++ blanks) ++ opt (group "kept" (phrase "MATERIALIZED "))
    ++ phrase "VIEW " ++ opt (phrase "IF NOT EXISTS ") ++ group "name" qualifiedName ++ gap
    ++ opt (lit "(" ++ group "columns" (run true (· != ')')) ++ lit ")") ++ gap
    ++ opt (phrase "WITH" ++ gap ++ lit "(" ++ run true (· != ')') ++ lit ")" ++ gap)
    ++ phrase "AS " ++ group "query" rest ++ textEnd

/-- Adds a column to a view, unless it has one of that name. -/
def addViewColumn (s : Source) (v : Table) (name : List Char) : Table :=
  if (v.column? (String.ofList name)).isSome then v
  else
    let c : Column := { name := String.ofList (s.unquote name), type := "varchar" }
    { v with columns := v.columns ++ [c] }

/-- The names of the columns of a view: those that are listed, or else those of its query. -/
def viewNames (f : Pattern.Found) : Except Fault (List (List Char)) :=
  match f.group? "columns" with
  | some columns => .ok (splitIdentifiers columns)
  | none => projectionNames (f.group "query")

/-- The view of a definition, with columns of these names. -/
def viewOf (s : Source) (f : Pattern.Found) (names : List (List Char)) : Table :=
  let r := TableRef.parse (f.group "name")
  let start : Table :=
    { name := r.name, schema := r.schema, isView := true,
      isMaterializedView := (f.group? "kept").isSome }
  names.foldl (addViewColumn s) start

/-- Reads a view definition, and takes the view into the schema. -/
def view (s : Source) (cs : List Char) : Writing String Unit := do
  let some f := viewStatement.find? cs | refuse "unrecognized CREATE VIEW syntax"
  let names ← viewNames f
  discard (addTable (viewOf s f names))

end SchemaChart.Reading
