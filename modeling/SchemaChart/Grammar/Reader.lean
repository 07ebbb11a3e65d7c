-- Reading tokens: the small steps from which the strict grammar is built. A reader takes tokens
-- from the front, may look ahead, and either gives a result or says what it expected instead.
import SchemaChart.Grammar.Token

namespace SchemaChart.Grammar

/-- Why a statement is refused. -/
inductive Failure where
  /-- The words of the complaint, and the offset of what it is about. -/
  | refused (words : String) (offset : Option Nat)
  /-- The statement nests deeper than the grammar follows. -/
  | tooDeep
deriving Repr, DecidableEq

namespace Failure

def words : Failure → String
  | refused w _ => w
  | tooDeep => "recursion limit exceeded"

def offset : Failure → Option Nat
  | refused _ n => n
  | tooDeep => none

end Failure

/-- Where an expression stands, as far as that changes how it is read. -/
inductive Context where
  | plain
  /-- Among the options of a column, where an expression stops before the next option. -/
  | column
  /-- In a condition that ties the rows of a hierarchy to each other. -/
  | hierarchy
deriving Repr, DecidableEq

/-- What a reader has to know. -/
structure Setting where
  flavor : Flavor
  context : Context := .plain

abbrev Reader := ReaderT Setting (StateT (List Located) (Except Failure))

namespace Reader

/-! ## Looking and taking -/

/-- The token ahead. -/
def peek : Reader Located := return (← get).headD Located.ending

/-- The token behind the next `n` ones. -/
def peekNth (n : Nat) : Reader Located := return ((← get).drop n).headD Located.ending

/-- Takes the token ahead. -/
def next : Reader Located := do
  let t ← peek
  modify (List.drop 1)
  return t

def flavor : Reader Flavor := return (← read).flavor

def context : Reader Context := return (← read).context

/-- Reads in another context. -/
def within (c : Context) (r : Reader α) : Reader α :=
  withReader (fun s => { s with context := c }) r

/-! ## Refusing -/

def refuse (words : String) : Reader α := throw (.refused words none)

/-- Refuses at the place of a token. -/
def refuseAt (words : String) (t : Located) : Reader α := throw (.refused words t.offset)

/-- Refuses at the place of the token ahead. -/
def refuseHere (words : String) : Reader α := do refuseAt words (← peek)

/-- Refuses a token, naming what should stand in its place. -/
def expected (what : String) (found : Located) : Reader α :=
  refuseAt ("Expected: " ++ what ++ ", found: " ++ found.token.render) found

/-- Refuses the token ahead. -/
def expectedHere (what : String) : Reader α := do expected what (← peek)

/-- Tries a reader; if it refuses, nothing is taken. Too much nesting is not forgiven. -/
def attempt (r : Reader α) : Reader (Option α) := fun s ts =>
  match r s ts with
  | .ok (a, ts') => .ok (some a, ts')
  | .error .tooDeep => .error .tooDeep
  | .error (.refused ..) => .ok (none, ts)

/-- Tries a reader and keeps its complaint; if it refuses, nothing is taken. -/
def attemptOr (r : Reader α) : Reader (Except Failure α) := fun s ts =>
  match r s ts with
  | .ok (a, ts') => .ok (.ok a, ts')
  | .error e => .ok (.error e, ts)

/-! ## Key words and marks -/

/-- Is this key word ahead. -/
def atKey (k : String) : Reader Bool := return (← peek).token.isKey k

/-- Is one of these key words ahead. -/
def atOneOf (ks : List String) : Reader Bool := do
  let t ← peek
  return ks.any t.token.isKey

/-- Takes a key word if it is ahead. -/
def key (k : String) : Reader Bool := do
  if ← atKey k then
    modify (List.drop 1)
    return true
  else return false

/-- Do these tokens start with these key words. -/
def startWith : List String → List Located → Bool
  | [], _ => true
  | _ :: _, [] => false
  | k :: ks, t :: ts => t.token.isKey k && startWith ks ts

/-- Takes several key words in a row if all of them are ahead. -/
def keys (ks : List String) : Reader Bool := do
  if startWith ks (← get) then
    modify (List.drop ks.length)
    return true
  else return false

/-- Takes key words only under a condition. -/
def keysIf (b : Bool) (ks : List String) : Reader Bool := if b then keys ks else return false

/-- Takes the first of several rows of key words that is ahead. -/
def eitherKeys : List (List String) → Reader Bool
  | [] => return false
  | ks :: rest => do if ← keys ks then return true else eitherKeys rest

/-- Takes whichever of these key words is ahead. -/
def oneOf (ks : List String) : Reader (Option String) := do
  let t ← peek
  match ks.find? t.token.isKey with
  | some k =>
    modify (List.drop 1)
    return some k
  | none => return none

/-- Is this mark ahead. -/
def atMark (s : String) : Reader Bool := return (← peek).token == .mark s

/-- Takes a mark if it is ahead. -/
def mark (s : String) : Reader Bool := do
  if ← atMark s then
    modify (List.drop 1)
    return true
  else return false

/-- Takes a mark only under a condition. -/
def markIf (b : Bool) (s : String) : Reader Bool := if b then mark s else return false

def expectKey (k : String) : Reader Unit := do
  unless ← key k do expectedHere k

def expectKeys (ks : List String) : Reader Unit := ks.forM expectKey

def expectMark (s : String) : Reader Unit := do
  unless ← mark s do expectedHere s

def expectOneOf (ks : List String) : Reader String := do
  match ← oneOf ks with
  | some k => return k
  | none => expectedHere ("one of " ++ " or ".intercalate ks)

/-- Takes several key words in a row if they are ahead. -/
def may (ks : List String) : Reader Unit := do let _ ← keys ks

/-- Reads on behind key words, if they are ahead. -/
def after (ks : List String) (r : Reader α) : Reader (Option α) := do
  if ← keys ks then some <$> r else return none

/-- Key words, if they are ahead, and what is read behind them, as text with a space before it. -/
def clause (ks : List String) (r : Reader String) : Reader String := do
  if ← keys ks then return " " ++ " ".intercalate ks ++ " " ++ (← r) else return ""

/-- Key words, if they are ahead, as text with a space before it. -/
def flag (ks : List String) : Reader String := do
  if ← keys ks then return " " ++ " ".intercalate ks else return ""

/-- The first of several rows of key words that is ahead, as text with a space before it. -/
def firstFlag : List (List String) → Reader String
  | [] => return ""
  | ks :: rest => do
    if ← keys ks then return " " ++ " ".intercalate ks else firstFlag rest

/-- Is the token ahead a word. -/
def atWord : Reader Bool := do
  match (← peek).token with
  | .word .. => return true
  | _ => return false

/-! ## Repetition -/

/-- Reads until the step gives nothing more, at most `n` times. -/
def repeatFrom (step : Reader (Option α)) : Nat → Reader (List α)
  | 0 => return []
  | n + 1 => do
    match ← step with
    | some a => return a :: (← repeatFrom step n)
    | none => return []

/-- Reads until the step gives nothing more. A step that gives something takes a token, so the
number of tokens bounds the repetition. -/
def repeated (step : Reader (Option α)) : Reader (List α) := do
  repeatFrom step ((← get).length + 1)

def commaListFrom (item : Reader α) : Nat → Reader (List α)
  | 0 => return []
  | n + 1 => do
    let a ← item
    if ← mark "," then return a :: (← commaListFrom item n) else return [a]

/-- One or more items with commas between them. -/
def commaList (item : Reader α) : Reader (List α) := do
  commaListFrom item ((← get).length + 1)

/-- Items with commas between them; none if the closing mark is ahead. -/
def commaList0 (item : Reader α) (close : String) : Reader (List α) := do
  if ← atMark close then return [] else commaList item

/-- Something in parentheses. -/
def parens (r : Reader α) : Reader α := do
  expectMark "("
  let a ← r
  expectMark ")"
  return a

end Reader

end SchemaChart.Grammar
