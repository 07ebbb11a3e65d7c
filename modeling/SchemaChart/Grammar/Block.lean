-- Statements of the strict grammar that hold other statements: conditions, cases and loops.
import SchemaChart.Grammar.Object

namespace SchemaChart.Grammar

open Reader

section

variable (r : Nested)

/-- A condition, `THEN` and the statements it guards. -/
def guarded (stop : List String) : Reader Unit := do
  let _ ← r.any
  expectKey "THEN"
  bodyStatements r stop

/-- From behind `IF`. -/
def conditional : Reader Unit := do
  guarded r ["ELSE", "ELSEIF", "END"]
  let _ ← repeated (after ["ELSEIF"] (guarded r ["ELSEIF", "ELSE", "END"]))
  if ← key "ELSE" then bodyStatements r ["END"]
  expectKeys ["END", "IF"]

/-- Statements of SQL Server up to the end of a block; semicolons between them are optional. The
first argument bounds their number. -/
def looseStatements : Nat → Reader Unit
  | 0 => return
  | n + 1 => do
    if (← peek).token == .ending || (← atKey "END") then return
    r.statement
    let _ ← repeated do
      if ← mark ";" then return some () else return none
    looseStatements n

/-- The statement that a condition of SQL Server guards, or a block of them. -/
def serverBranch : Reader Unit := do
  if ← key "BEGIN" then
    looseStatements r ((← get).length + 1)
    expectKey "END"
  else r.statement

/-- From behind `IF` in SQL Server. Semicolons before `ELSE` belong to the condition; without an
`ELSE` the last one is left. -/
def serverConditional : Reader Unit := do
  let _ ← r.any
  serverBranch r
  let marks ← repeated do
    let t ← peek
    if ← mark ";" then return some t else return none
  if ← key "ELSE" then serverBranch r
  else
    match marks.getLast? with
    | some t => modify (t :: ·)
    | none => return

/-- From behind `CASE`. -/
def caseStatement : Reader Unit := do
  unless ← atKey "WHEN" do let _ ← r.any
  expectKey "WHEN"
  guarded r ["WHEN", "ELSE", "END"]
  let _ ← repeated (after ["WHEN"] (guarded r ["WHEN", "ELSE", "END"]))
  if ← key "ELSE" then bodyStatements r ["END"]
  expectKey "END"
  may ["CASE"]

/-- From behind `WHILE`. -/
def loop : Reader Unit := do
  let _ ← r.any
  bodyStatements r ["END"]

/-- From behind `RAISE`. -/
def raising : Reader Unit := do
  if ← keys ["USING", "MESSAGE"] then
    expectMark "="
    let _ ← r.any
  else let _ ← attempt r.any

end

end SchemaChart.Grammar
