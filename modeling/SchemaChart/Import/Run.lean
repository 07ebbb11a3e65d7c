-- Reading a whole script. A statement is taken in by the strict grammar first, where there is one
-- for its kind, and else by a tolerant reader.
import SchemaChart.Data.Word
import SchemaChart.Import.Strict
import SchemaChart.Reading.Alter
import SchemaChart.Reading.Comment
import SchemaChart.Reading.Index
import SchemaChart.Reading.TypeDecl
import SchemaChart.Reading.View
import SchemaChart.Script.Detect
import SchemaChart.Script.Dump

namespace SchemaChart.Import

open Text
open Data (Arithmetic)
open Schema (Alteration Builder TableRef Writing)
open Schema.Writing (refuse)
open Script (Statement classify)

/-! ## Errors -/

/-- Why a statement could not be read, and where. -/
structure Failure where
  message : String
  line : Option Nat
  column : Option Nat
deriving Repr, DecidableEq, Inhabited

/-- Why a script could not be imported. -/
inductive Error where
  | unsupported (dialect : Dialect)
  | parse (dialect : Dialect) (failure : Failure)
  | conversion (message : String)
deriving Repr, DecidableEq

/-- Where a failure happened, for a message. -/
def Failure.place (f : Failure) : String :=
  match f.line, f.column with
  | some l, some c => " at line " ++ toString l ++ ", column " ++ toString c
  | some l, none => " at line " ++ toString l
  | none, _ => ""

def Error.message : Error → String
  | unsupported d => "No SQL importer for dialect " ++ d.name
  | parse d f => "Parse error (" ++ d.name ++ ")" ++ f.place ++ ": " ++ f.message
  | conversion m => "Conversion error: " ++ m

/-! ## One statement -/

/-- The number behind the first occurrence of a mark. -/
def numberBehind? (mark : String) (cs : List Char) : Option Nat :=
  (cutAt? mark.toList cs).bind (fun (_, rest) =>
    let digits := (rest.drop mark.length).takeWhile Char.isDigit
    if digits.isEmpty then none else Schema.numberBelow? (Nat.pow 2 64) digits)

/-- The line and the column that a message names. -/
def errorPosition (cs : List Char) : Option Nat × Option Nat :=
  (numberBehind? "Line: " cs, numberBehind? "Column: " cs)

/-- The line of a script that is reported for a statement: the one that a message names, counted
from where the statement starts, or else where it starts. Lines are machine words. -/
def reportedLine (a : Arithmetic) (st : Statement) : Option Nat → Except Fault Nat
  | some told => do a.sub (← a.add told st.line) 1
  | none => .ok st.line

/-- A failure of a statement, at the place that its message names. -/
def failureAt (a : Arithmetic) (st : Statement) (message : String) : Except Fault Failure := do
  let (told, column) := errorPosition message.toList
  let line ← reportedLine a st told
  return ⟨message, some line, column⟩

/-- How statements of a kind are taken in: by the strict grammar, where there is one for the kind,
and by a tolerant reader. -/
structure Strategy where
  strict : Option (Source → List Char → Writing String Unit)
  tolerant : Source → List Char → Writing String Unit

namespace Strategy

/-- The strategy for a kind of statements; those of other kinds are passed over. -/
def ofKind? : Script.Kind → Option Strategy
  | .createTable => some ⟨some strictTable, Reading.table⟩
  | .createIndex => some ⟨some strictIndex, fun _ => Reading.index⟩
  | .alterTable => some ⟨none, Reading.alter⟩
  | .createView => some ⟨none, Reading.view⟩
  | .createType => some ⟨none, fun _ => Reading.customType⟩
  | .commentOn => some ⟨none, fun _ => Reading.comment⟩
  | .other => none

/-- Takes in a prepared statement. The tolerant reader goes on from where the strict grammar was
refused; if it is refused too, the grammar tells why. -/
def take (σ : Strategy) (s : Source) (cs : List Char) : Writing String Unit :=
  match σ.strict with
  | none => σ.tolerant s cs
  | some strict => (strict s cs).onRefusal fun e => (σ.tolerant s cs).onRefusal fun _ => refuse e

end Strategy

/-- What is said about a statement that failed. -/
def skipped (st : Statement) (message : String) : String :=
  "Skipped statement at line " ++ toString st.line ++ ": " ++ message

/-- Takes in one statement. If it fails, there is a warning. -/
def dispatch (a : Arithmetic) (s : Source) (st : Statement) : Writing Failure Unit :=
  let text := st.text.toList
  match Strategy.ofKind? (classify text) with
  | none => pure ()
  | some σ =>
    (σ.take s (s.prepare text)).onRefusal fun message => do
      let failure ← failureAt a st message
      modify (·.warn (skipped st failure.message))
      refuse failure

/-! ## A whole script -/

/-- A schema under construction, and the statements that could not be read. -/
structure Progress where
  builder : Builder
  failures : List Failure := []
deriving Repr, DecidableEq

namespace Progress

def start (s : Source) : Progress := ⟨{ dialect := s.dialect }, []⟩

/-- Takes in one statement, and notes its failure. -/
def step (a : Arithmetic) (s : Source) (p : Progress) (st : Statement) : Except Fault Progress :=
  match dispatch a s st p.builder with
  | .ok _ b => .ok { p with builder := b }
  | .error (.refused f) b => .ok ⟨b, p.failures ++ [f]⟩
  | .error (.fault f) _ => .error f

/-- Takes in statements in order. -/
def run (a : Arithmetic) (s : Source) (p : Progress) (sts : List Statement) :
    Except Fault Progress :=
  sts.foldlM (step a s) p

/-- The finished schema. If there is no table, the first failure is the answer. -/
def finish (s : Source) (p : Progress) : Except Error Schema :=
  match p.builder.tables, p.failures with
  | [], f :: _ => .error (.parse s.dialect f)
  | _, _ => .ok p.builder.finish

end Progress

/-- The schema of a run, unless the run broke down. -/
def outcome (s : Source) (run : Except Fault Progress) : Except (Stop Error) Schema := do
  let p ← run.mapError .fault
  (p.finish s).mapError .refused

/-- Reads a script statement by statement. -/
def parseScript (a : Arithmetic) (s : Source) (cs : List Char) : Except (Stop Error) Schema :=
  outcome s ((Progress.start s).run a s (Script.splitStatements cs))

/-! ## Dumps -/

/-- The changes of a dump, each with its table. -/
abbrev Changes := List (TableRef × Alteration)

/-- Reads an alteration of a dump: its changes wait, and a failure is noted at once, where the
statement starts. -/
def gatherStep (s : Source) (acc : Progress × Changes) (st : Statement) : Progress × Changes :=
  let (p, changes) := acc
  match Reading.alterTable s (s.prepare st.text.toList) with
  | .ok (r, as) => (p, changes ++ as.map (r, ·))
  | .error message =>
    let failure : Failure := ⟨message, some st.line, (errorPosition message.toList).2⟩
    (⟨p.builder.warn (skipped st message), p.failures ++ [failure]⟩, changes)

/-- Changes by their phases; inside each phase the order stays. -/
def byPhase (changes : Changes) : Changes :=
  [0, 1, 2].flatMap (fun n => changes.filter (·.2.phase == n))

/-- Makes changes in order. -/
def makeChanges (p : Progress) (changes : Changes) : Progress :=
  { p with builder := changes.foldl (fun b (r, a) => b.alter r a) p.builder }

/-- Reads the statements of a dump: types and tables, then indexes, then alterations by phase,
then views and comments. -/
def runDump (a : Arithmetic) (s : Source) (sts : List Statement) : Except Fault Progress := do
  let ofKind (ks : List Script.Kind) := sts.filter (fun st => ks.contains (classify st.text.toList))
  let defined ← (Progress.start s).run a s (ofKind [.createType, .createTable])
  let indexed ← defined.run a s (ofKind [.createIndex])
  let (gathered, changes) := (ofKind [.alterTable]).foldl (gatherStep s) (indexed, [])
  (makeChanges gathered (byPhase changes)).run a s (ofKind [.createView, .commentOn])

/-- Reads a dump. -/
def parseDump (a : Arithmetic) (s : Source) (cs : List Char) : Except (Stop Error) Schema :=
  outcome s (runDump a s (Script.splitDump cs))

/-! ## Any script -/

/-- The dialect that a script is read in. -/
def resolveDialect (d : Dialect) (cs : List Char) : Dialect :=
  match d with
  | .generic => Script.detect cs
  | d => d

/-- Is a script a dump of its dialect. -/
def isDump (s : Source) (cs : List Char) : Bool :=
  match s with
  | .postgresql => Script.isPostgresDump cs
  | .mysql | .mariadb => Script.isMysqlDump cs
  | _ => false

/-- The schema that a script declares. -/
def parse (a : Arithmetic) (d : Dialect) (cs : List Char) : Except (Stop Error) Schema :=
  let d := resolveDialect d cs
  match Source.ofDialect? d with
  | none => .error (.refused (.unsupported d))
  | some s => if isDump s cs then parseDump a s cs else parseScript a s cs

end SchemaChart.Import
