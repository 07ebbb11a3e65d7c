-- Index definitions of the strict grammar.
import SchemaChart.Grammar.Constraint

namespace SchemaChart.Grammar

open Reader

/-- An index definition: the dotted names of the index and of its table, the method, and the keys
as text. -/
structure IndexDefinition where
  name : Option String
  table : String
  method : Option String
  keys : List String
  unique : Bool
deriving Repr, DecidableEq

/-- How a change is carried out, from behind `ALGORITHM`. -/
def algorithm : Reader Unit := do
  let _ ← mark "="
  unless (← oneOf ["DEFAULT", "INSTANT", "INPLACE", "COPY"]).isSome do
    expectedHere "DEFAULT, INSTANT, INPLACE, or COPY after ALGORITHM [=]"

/-- What others may do during a change, from behind `LOCK`. -/
def changeLock : Reader Unit := do
  let _ ← mark "="
  unless (← oneOf ["DEFAULT", "EXCLUSIVE", "NONE", "SHARED"]).isSome do
    expectedHere "DEFAULT, EXCLUSIVE, NONE or SHARED after LOCK [=]"

/-- An index definition, from behind `INDEX`. The last method that is named counts. -/
def indexDefinition (r : Nested) (unique : Bool) : Reader IndexDefinition := do
  may ["CONCURRENTLY"]
  let guarded ← keys ["IF", "NOT", "EXISTS"]
  let unnamed ← if guarded then pure false else key "ON"
  let (name, early) ←
    if unnamed then pure (none, none)
    else do
      let name ← objectName
      let early ← indexMethod?
      expectKey "ON"
      pure (some name, early)
  let table ← objectName
  let late ← indexMethod?
  let ks ← indexKeys r
  if ← key "INCLUDE" then let _ ← parens (commaList identifier)
  if ← key "NULLS" then
    may ["NOT"]
    expectKey "DISTINCT"
  if ← keysIf ((← flavor) == .postgres) ["WITH"] then let _ ← parens r.list
  if ← key "WHERE" then let _ ← r.any
  let _ ← indexOptions " "
  let _ ← repeated do
    match ← oneOf ["ALGORITHM", "LOCK"] with
    | some "ALGORITHM" => some <$> algorithm
    | some _ => some <$> changeLock
    | none => return none
  return ⟨name, table, late <|> early, ks, unique⟩

end SchemaChart.Grammar
