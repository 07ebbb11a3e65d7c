-- Column definitions: a name, the words of the type, and the options behind them.
import SchemaChart.Reading.Constraint
import SchemaChart.Source

namespace SchemaChart.Reading

open Text
open Schema (Column Fact)

/-! ## Options -/

/-- What makes a column increment. -/
def incrementMark : Pattern :=
  open Pattern in
  (edge ++ phrase "AUTO_INCREMENT" ++ edge) <|> (edge ++ phrase "AUTOINCREMENT" ++ edge)
    <|> (edge ++ phrase "IDENTITY" ++ edge)
    <|> (edge ++ phrase "GENERATED " ++ oneOf ["ALWAYS", "BY DEFAULT"] ++ opt (phrase " ON NULL")
      ++ phrase " AS IDENTITY" ++ edge)

/-- What every update of a row sets a column to. -/
def updateValue : Pattern :=
  open Pattern in
  edge ++ phrase "ON UPDATE "
    ++ group "value" (oneOf ["CURRENT_TIMESTAMP", "LOCALTIMESTAMP", "LOCALTIME", "NOW"]
      ++ opt (gap ++ lit "(" ++ gap ++ run true isDecimal ++ gap ++ lit ")"))

/-- The value that every update of a row sets a column to, in capitals and without spaces. -/
def updateValue? (cs : List Char) : Option String :=
  (updateValue.find? cs).map
    (fun f => String.ofList ((upper (f.group "value")).filter (· != ' ')))

/-- Applies the text of one option to a column, and tells the foreign key it makes, if any. -/
def applyOption (c : Column) (name : Option String) (cs : List Char) : Column × Option Fact :=
  let u := upper cs
  let key := holds u "PRIMARY KEY"
  let collation :=
    if startsWith u "COLLATE " then some (String.ofList (unquoteIdentifier (cs.drop 8))) else none
  ({ c with
      primaryKey := c.primaryKey || key
      nullable := c.nullable && !key
      unique := c.unique || startsWith u "UNIQUE" || holds u " UNIQUE"
      increment := c.increment || incrementMark.occursIn cs
      onUpdate := updateValue? cs <|> c.onUpdate
      collation := collation <|> c.collation },
    (reference? cs).map (·.fact name [c.name]))

/-! ## Definitions -/

/-- A column definition: its name and all behind it. -/
def columnHead : Pattern :=
  open Pattern in
  textStart ++ gap ++ group "name" identifier ++ opt (blanks ++ group "rest" rest) ++ textEnd

/-- Words that end the type of a column. -/
def stopWords : List String :=
  ["NOT", "NULL", "PRIMARY", "UNIQUE", "DEFAULT", "REFERENCES", "CHECK", "CONSTRAINT",
    "AUTO_INCREMENT", "AUTOINCREMENT", "GENERATED", "COMMENT", "COLLATE", "CHARSET", "ON", "AS",
    "SPARSE", "ROWGUIDCOL", "WITH", "KEY", "INVISIBLE", "VISIBLE"]

/-- Does a word end the type of a column, `next` being the word behind it. -/
def endsType (w : List Char) (next : Option (List Char)) : Bool :=
  let u := upper w
  if startsWith u "IDENTITY" then true
  else if u == "CHARACTER".toList then next.any (eqIgnoringCase · "SET".toList)
  else stopWords.contains (String.ofList u)

/-- The words of the type and the words of the options. -/
def splitType : List (List Char) → List (List Char) × List (List Char)
  | [] => ([], [])
  | w :: ws =>
    if endsType w ws.head? then ([], w :: ws)
    else
      let (type, options) := splitType ws
      (w :: type, options)

/-- What the reading of options waits for. -/
inductive OptionMode where
  | plain
  | afterNot
  | value
  /-- The default ends in a cast, whose type may go on. -/
  | cast
  | comment
  | collation
deriving Repr, DecidableEq

/-- Words that go on with the type of a cast. -/
def castWords : List String := ["VARYING", "PRECISION", "WITH", "WITHOUT", "TIME", "ZONE"]

/-- A word of the options that nothing waits for. -/
def plainOption (c : Column) (w : List Char) : Column × OptionMode :=
  match String.ofList (upper w) with
  | "NOT" => (c, .afterNot)
  | "NULL" => ({ c with nullable := true }, .plain)
  | "DEFAULT" => (c, .value)
  | "COMMENT" => (c, .comment)
  | "COLLATE" => (c, .collation)
  | _ => (c, .plain)

/-- Reads one word of the options. -/
def optionStep : Column × OptionMode → List Char → Column × OptionMode
  | (c, .plain), w => plainOption c w
  | (c, .afterNot), w =>
    if eqIgnoringCase w "NULL".toList then ({ c with nullable := false }, .plain)
    else plainOption c w
  | (c, .value), w =>
    ({ c with default := some (String.ofList w) }, if holds w "::" then .cast else .plain)
  | (c, .cast), w =>
    if castWords.contains (String.ofList (upper w)) then
      ({ c with default := c.default.map (· ++ " " ++ String.ofList w) }, .cast)
    else plainOption c w
  | (c, .comment), w => ({ c with comment := (unquoteLiteral? w).map String.ofList }, .plain)
  | (c, .collation), w =>
    ({ c with collation := some (String.ofList (unquoteIdentifier w)) }, .plain)

/-- Reads a column definition and the foreign key it makes, if any. -/
def column? (s : Source) (cs : List Char) : Option (Column × List Fact) :=
  (columnHead.find? cs).map (fun f =>
    let name := String.ofList (s.unquote (f.group "name"))
    let (type, options) := splitType (splitWords (f.group "rest"))
    let start : Column := { name := name, type := String.ofList (unwords type) }
    let read := (options.foldl optionStep (start, .plain)).1
    let text := unwords options
    let u := upper text
    let key := holds u "PRIMARY KEY"
    let column := { read with
      primaryKey := key
      nullable := read.nullable && !key
      unique := (words u).contains "UNIQUE".toList
      increment := incrementMark.occursIn text
      onUpdate := updateValue? text }
    let constraint :=
      if holds u "REFERENCES" then
        (namedConstraint.find? text).map
          (fun f => String.ofList (unquoteIdentifier (f.group "name")))
      else none
    (Source.settle column, ((reference? text).map (·.fact constraint [name])).toList))

end SchemaChart.Reading
