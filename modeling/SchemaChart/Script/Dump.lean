-- A dump cut into statements, line by line.
import SchemaChart.Script.Statement
import SchemaChart.Text.Pattern

namespace SchemaChart.Script

open Text

/-- Two dollar signs with a name between them or none. -/
def dollarMark : Pattern :=
  open Pattern in
  lit "$" ++ run true (fun c => c.isAlpha || c == '_') ++ lit "$"

/-- Where the scan of a dump stands: the text of the current statement, whether it is inside a
dollar body, and whether another delimiter is set. Statements are kept last first. -/
structure DumpScan where
  current : List Char := []
  start : Nat := 0
  inBody : Bool := false
  otherDelimiter : Bool := false
  done : List Statement := []
deriving Repr, DecidableEq

/-- Is a line the one that sets the delimiter back. -/
def resetsDelimiter (line : List Char) : Bool := eqIgnoringCase line "DELIMITER ;".toList

/-- Does a line set a delimiter. -/
def setsDelimiter (line : List Char) : Bool := eqIgnoringCase (line.take 9) "DELIMITER".toList

/-- Does a line only instruct the server. -/
def isDirective (line : List Char) : Bool := startsWith line "/*!" && endsWith line ";"

namespace DumpScan

/-- Ends the current statement, if there is one. -/
def flush (s : DumpScan) : DumpScan :=
  let text := trim (trimEndOf ';' (trim s.current))
  { s with
    current := []
    done := if text.isEmpty then s.done else ⟨String.ofList text, s.start⟩ :: s.done }

/-- Takes a line into the current statement, which it may end. -/
def take (s : DumpScan) (n : Nat) (line : List Char) : DumpScan :=
  let inBody := s.inBody != (dollarMark.count line % 2 == 1)
  let s := { s with
    start := if s.current.isEmpty then n else s.start
    current := s.current ++ line ++ ['\n']
    inBody := inBody }
  if !inBody && endsWith (trim line) ";" then s.flush else s

/-- Moves the scan past line `n`. Blank lines, comment lines, directives and all between two
delimiters are dropped. -/
def step (s : DumpScan) (n : Nat) (line : List Char) : DumpScan :=
  let trimmed := trim line
  if s.otherDelimiter then { s with otherDelimiter := !resetsDelimiter trimmed }
  else if s.inBody then s.take n line
  else if trimmed.isEmpty || startsWith trimmed "--" then s
  else if isDirective trimmed && s.current.isEmpty then s
  else if setsDelimiter trimmed then { s with otherDelimiter := !resetsDelimiter trimmed }
  else s.take n line

/-- Moves the scan past lines, the first of which is line `n`. -/
def run (s : DumpScan) (n : Nat) : List (List Char) → DumpScan
  | [] => s
  | l :: ls => (s.step n l).run (n + 1) ls

end DumpScan

/-- The statements of a dump. A statement ends on a line that ends in a semicolon, unless a
dollar body is open. -/
def splitDump (cs : List Char) : List Statement :=
  (({} : DumpScan).run 1 (lines cs)).flush.done.reverse

end SchemaChart.Script
