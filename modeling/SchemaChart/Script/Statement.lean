-- A script cut into statements, each with the line it starts on, and the kinds of statements.
import SchemaChart.Text.Blank
import SchemaChart.Text.LetterCase

namespace SchemaChart.Script

open Text

/-- A statement of a script and the line, from 1, on which it starts. -/
structure Statement where
  text : String
  line : Nat
deriving Repr, DecidableEq, Inhabited

/-! ## Kinds -/

/-- The kinds of statements that say something about a schema. -/
inductive Kind where
  | createTable
  | createIndex
  | alterTable
  | createView
  | createType
  | commentOn
  | other
deriving Repr, DecidableEq, Inhabited

def Kind.name : Kind → String
  | createTable => "CreateTable"
  | createIndex => "CreateIndex"
  | alterTable => "AlterTable"
  | createView => "CreateView"
  | createType => "CreateType"
  | commentOn => "CommentOn"
  | other => "Other"

/-- Words that may stand between `CREATE` and what is created. -/
def modifiers : List String :=
  ["OR", "REPLACE", "GLOBAL", "LOCAL", "TEMP", "TEMPORARY", "UNLOGGED", "UNIQUE", "CLUSTERED",
    "NONCLUSTERED", "MATERIALIZED", "RECURSIVE", "FULLTEXT", "SPATIAL", "SQL", "SECURITY",
    "DEFINER", "INVOKER"]

/-- Is a word one that may stand between `CREATE` and what is created. -/
def isModifier (w : List Char) : Bool :=
  modifiers.contains (String.ofList w) || startsWith w "DEFINER=" || startsWith w "ALGORITHM="

/-- What the words behind `CREATE` create. -/
def createdKind : List (List Char) → Kind
  | [] => .other
  | w :: ws =>
    match String.ofList w with
    | "TABLE" => .createTable
    | "INDEX" => .createIndex
    | "VIEW" => .createView
    | "TYPE" => .createType
    | _ => if isModifier w then createdKind ws else .other

/-- The kind of a statement, by its first ten words. -/
def classify (cs : List Char) : Kind :=
  match ((words cs).take 10).map upper with
  | [] => .other
  | w :: ws =>
    match String.ofList w, ws.head?.map String.ofList with
    | "CREATE", _ => createdKind ws
    | "ALTER", some "TABLE" => .alterTable
    | "COMMENT", some "ON" => .commentOn
    | _, _ => .other

/-! ## Cutting a script -/

/-- What the scan of a script is inside of. -/
inductive Mode where
  /-- Plain text; the mark tells whether a line starts here. -/
  | code (lineStart : Bool)
  /-- The rest of a line that is dropped. -/
  | restOfLine
  | comment
  | quoted (close : Char)
  /-- A text between two copies of a dollar tag. -/
  | body (tag : List Char)
  /-- `n` more characters are dropped. -/
  | dropping (n : Nat) (next : Mode)
  /-- `n` more characters are kept. -/
  | keeping (n : Nat) (next : Mode)
deriving Repr, DecidableEq

/-- Where the scan of a script stands. The text so far is kept last character first, and the
statements last statement first. -/
structure Scan where
  mode : Mode := .code true
  line : Nat := 1
  start : Nat := 1
  current : List Char := []
  done : List Statement := []
deriving Repr, DecidableEq

/-- After a first part the scan goes on with the rest of a token of `n` characters. -/
def Mode.keepRest (n : Nat) (next : Mode) : Mode := if n ≤ 1 then next else .keeping (n - 1) next

/-- The dollar tag at the start of a text: two dollar signs, with a name between them or none. -/
def dollarTag? (cs : List Char) : Option (List Char) :=
  match cs with
  | '$' :: '$' :: _ => some ['$', '$']
  | '$' :: c :: rest =>
    if c.isAlpha || c == '_' then
      let name := rest.takeWhile (fun c => c.isAlphanum || c == '_')
      match rest.drop name.length with
      | '$' :: _ => some ('$' :: c :: name ++ ['$'])
      | _ => none
    else none
  | _ => none

/-- Does a line only end a batch: the word `GO`, with a count or without. -/
def isBatchLine (line : List Char) : Bool :=
  match trim line with
  | [g, o] => g.toLower == 'g' && o.toLower == 'o'
  | g :: o :: ' ' :: count =>
    g.toLower == 'g' && o.toLower == 'o' && (trim count).all Char.isDigit
  | _ => false

namespace Scan

/-- Keeps a character; a line feed moves to the next line. -/
def keep (s : Scan) (c : Char) : Scan :=
  { s with current := c :: s.current, line := if c == '\n' then s.line + 1 else s.line }

/-- Drops a character; a line feed moves to the next line. -/
def drop (s : Scan) (c : Char) : Scan :=
  { s with line := if c == '\n' then s.line + 1 else s.line }

/-- Ends the current statement, if there is one. -/
def flush (s : Scan) : Scan :=
  let text := trim s.current.reverse
  { s with
    current := []
    done := if text.isEmpty then s.done else ⟨String.ofList text, s.start⟩ :: s.done }

/-- A line feed outside quotes and comments; before a statement it is dropped. -/
def newline (s : Scan) : Scan :=
  let moved := if s.current.isEmpty then s.drop '\n' else s.keep '\n'
  { moved with mode := .code true }

/-- A character outside quotes and comments, not at the start of a batch line. -/
def code (s : Scan) (c : Char) (rest : List Char) : Scan :=
  if c == '\n' then s.newline
  else if c == '-' && rest.head? == some '-' then { s with mode := .restOfLine }
  else if c == '/' && rest.head? == some '*' then
    { s with current := ' ' :: s.current, mode := .dropping 1 .comment }
  else
    let s := if s.current.all isBlank && !isBlank c then { s with start := s.line } else s
    match c with
    | '\'' | '"' | '`' => { s.keep c with mode := .quoted c }
    | '[' => { s.keep c with mode := .quoted ']' }
    | ';' => { s.flush with mode := .code false }
    | '$' =>
      match dollarTag? ((c :: rest).take 64) with
      | some tag => { s.keep c with mode := .keepRest tag.length (.body tag) }
      | none => { s.keep c with mode := .code false }
    | _ => { s.keep c with mode := .code false }

/-- Moves the scan past one character, `rest` being the text behind it. -/
def step (s : Scan) (c : Char) (rest : List Char) : Scan :=
  match s.mode with
  | .code lineStart =>
    if lineStart && isBatchLine ((c :: rest).takeWhile (· != '\n')) then
      { s.flush with mode := .restOfLine }
    else s.code c rest
  | .restOfLine => if c == '\n' then s.newline else s
  | .comment =>
    if c == '*' && rest.head? == some '/' then { s with mode := .dropping 1 (.code false) }
    else s.drop c
  | .quoted close =>
    let kept := s.keep c
    if c != close then kept
    else if close != ']' && rest.head? == some close then
      { kept with mode := .keeping 1 (.quoted close) }
    else { kept with mode := .code false }
  | .body tag =>
    if tag.isPrefixOf (c :: rest) then { s.keep c with mode := .keepRest tag.length (.code false) }
    else s.keep c
  | .dropping n next => { s.drop c with mode := if n ≤ 1 then next else .dropping (n - 1) next }
  | .keeping n next => { s.keep c with mode := .keepRest n next }

/-- Moves the scan past a text. -/
def run (s : Scan) : List Char → Scan
  | [] => s
  | c :: cs => (s.step c cs).run cs

end Scan

/-- The statements of a script. A statement ends at a semicolon outside quotes and comments, or
at a line that ends a batch. Comments are dropped. -/
def splitStatements (cs : List Char) : List Statement :=
  (({} : Scan).run cs).flush.done.reverse

end SchemaChart.Script
