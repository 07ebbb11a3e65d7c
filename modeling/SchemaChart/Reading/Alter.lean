-- Alterations of tables, clause by clause.
import SchemaChart.Reading.Column
import SchemaChart.Schema.Writing

namespace SchemaChart.Reading

open Text
open Schema (Alteration TableRef Writing)

/-- An alteration: its table and its clauses. -/
def alterHead : Pattern :=
  open Pattern in
  textStart ++ gap ++ phrase "ALTER TABLE " ++ opt (phrase "IF EXISTS ") ++ opt (phrase "ONLY ")
    ++ group "table" qualifiedName ++ blanks ++ group "rest" rest ++ textEnd

/-- Is a word this key word, in capitals after the full case mapping. -/
def isKey (key : String) (w : List Char) : Bool := upper w == key.toList

/-- Do words start with these key words. -/
def startsWithKeys : List String → List (List Char) → Bool
  | [], _ => true
  | _ :: _, [] => false
  | k :: ks, w :: ws => isKey k w && startsWithKeys ks ws

/-- Drops a key word, if the words start with it. -/
def dropKey (key : String) (ws : List (List Char)) : List (List Char) :=
  if startsWithKeys [key] ws then ws.drop 1 else ws

/-- Words without `WITH CHECK` or `WITH NOCHECK` before them. -/
def dropCheckMode (ws : List (List Char)) : List (List Char) :=
  match ws with
  | w :: c :: rest =>
    if eqIgnoringCase w "WITH".toList
        && (eqIgnoringCase c "CHECK".toList || eqIgnoringCase c "NOCHECK".toList) then rest
    else ws
  | _ => ws

/-- What is added, from behind `ADD`. -/
def addition? (s : Source) (ws : List (List Char)) : Option Alteration :=
  let text := unwords ws
  if isConstraint text then (constraint? text).map .addConstraint
  else
    let ws := dropKey "COLUMN" ws
    let ws := if startsWithKeys ["IF", "NOT", "EXISTS"] ws then ws.drop 3 else ws
    (column? s (unwords ws)).map (fun (c, facts) => .addColumn c facts)

/-- A column that is defined anew. -/
def redefinition? (s : Source) (ws : List (List Char)) : Option Alteration :=
  (column? s (unwords ws)).map (fun (c, _) => .modifyColumn c)

/-- A change of one property of a column, from behind `ALTER`. -/
def propertyChange? (s : Source) (ws : List (List Char)) : Option Alteration :=
  match dropKey "COLUMN" ws with
  | [] => none
  | c :: ws =>
    let column := String.ofList (s.unquote c)
    if startsWithKeys ["SET", "DEFAULT"] ws then
      let value := unwords (ws.drop 2)
      if value.isEmpty then none else some (.setDefault column (String.ofList value))
    else if startsWithKeys ["SET", "NOT"] ws then some (.setNotNull column)
    else none

/-- Reads one clause of an alteration. Clauses of other kinds change nothing. -/
def alteration? (s : Source) (clause : List Char) : Option Alteration :=
  match dropCheckMode (splitWords clause) with
  | [] => none
  | w :: ws =>
    match String.ofList (upper w) with
    | "ADD" => addition? s ws
    | "MODIFY" => redefinition? s (dropKey "COLUMN" ws)
    | "CHANGE" => redefinition? s ((dropKey "COLUMN" ws).drop 1)
    | "ALTER" => propertyChange? s ws
    | _ => none

/-- Reads an alteration: its table and its changes. -/
def alterTable (s : Source) (cs : List Char) : Except String (TableRef × List Alteration) :=
  match alterHead.find? cs with
  | none => .error "unrecognized ALTER TABLE syntax"
  | some f =>
    .ok (TableRef.parse (f.group "table"),
      (splitTopLevel ',' (f.group "rest")).filterMap (alteration? s))

/-- Reads an alteration, and makes its changes. -/
def alter (s : Source) (cs : List Char) : Writing String Unit := do
  let (r, changes) ← alterTable s cs
  for change in changes do modify (·.alter r change)

end SchemaChart.Reading
