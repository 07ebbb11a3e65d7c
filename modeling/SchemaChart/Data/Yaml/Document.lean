-- YAML documents: the one value of a text, from its tokens.
import SchemaChart.Data.Yaml.Token

namespace SchemaChart.Data.Yaml

/-- A value that got a number; `order` counts such values by where they start. -/
structure Target where
  number : Nat
  order : Nat
  value : Yaml
deriving Repr

/-- A value, and the values that its aliases stand for. -/
structure Document where
  root : Yaml
  targets : List Target := []
deriving Repr

/-- How far the reading of values has come. -/
structure Progress where
  tokens : List Token
  /-- What the handles of tags stand for. -/
  handles : List (String × String) := []
  /-- The numbers of names. -/
  numbers : List (String × Nat) := []
  /-- How many values with a name have started. -/
  started : Nat := 0
  targets : List Target := []
deriving Repr

/-- Reads values from tokens. -/
abbrev Builder := StateT Progress Option

namespace Builder

def refuse : Builder α := fun _ => none

def peek : Builder (Option Token) := return (← get).tokens.head?

/-- Is one of these tokens next. -/
def sees (ts : List Token) : Builder Bool := return (← peek).any ts.contains

def skip : Builder Unit := modify (fun b => { b with tokens := b.tokens.drop 1 })

/-- Passes a token if it is next. -/
def pass (t : Token) : Builder Bool := do
  if ← sees [t] then
    skip
    return true
  else return false

/-- Passes the comma before an item in flow text; the first item has none. -/
def passComma (first : Bool) : Builder Bool := if first then return true else pass .flowEntry

/-! ## Names and tags -/

/-- The number of the name of a value that starts here. It is the number of names before, and the
last value that got it keeps it. -/
def start (name : String) : Builder Target := do
  let b ← get
  let number := b.numbers.length
  set { b with
    numbers := (name, number) :: b.numbers.filter (·.1 != name), started := b.started + 1 }
  return { number, order := b.started, value := nothing }

/-- Reads a value with a name or without. -/
def named (name : Option String) (read : Builder Yaml) : Builder Yaml := do
  match name with
  | none => read
  | some name =>
    let t ← start name
    let value ← read
    modify (fun b => { b with targets := { t with value } :: b.targets })
    return value

/-- The number that the alias of a name stands for. The name must be known. -/
def aliasOf (name : String) : Builder Yaml := do
  match (← get).numbers.lookup name with
  | some n => return .alias n
  | none => refuse

/-- The text of a tag. Its handle must be known. -/
def tagOf (handle suffix : String) : Builder String := do
  if handle.isEmpty then return suffix
  else
    match (← get).handles.lookup handle with
    | some start => return start ++ suffix
    | none => refuse

/-- What stands before a value: a name for it and its tag, in either order. -/
def properties : Builder (Option String × Option String) := do
  match ← peek with
  | some (.anchor a) =>
    skip
    match ← peek with
    | some (.tag h s) =>
      skip
      return (some a, some (← tagOf h s))
    | _ => return (some a, none)
  | some (.tag h s) =>
    skip
    match ← peek with
    | some (.anchor a) =>
      skip
      return (some a, some (← tagOf h s))
    | _ => return (none, some (← tagOf h s))
  | _ => return (none, none)

/-! ## Values -/

/-- A value without a text of its own. It has a name or a tag. -/
def bare (name tag : Option String) : Builder Yaml :=
  if name.isSome || tag.isSome then named name (return .scalar "" .plain tag) else refuse

mutual

/-- A value, in block text or in flow text. As the value of a key, a sequence may stand at the
column of the key. -/
def node : Nat → (block inMap : Bool) → Builder Yaml
  | 0, _, _ => refuse
  | n + 1, block, inMap => do
    if let some (.alias name) ← peek then
      skip
      aliasOf name
    else
      let (name, tag) ← properties
      match ← peek with
      | some (.scalar text style) =>
        skip
        named name (return .scalar text style (if tag == some "!" then none else tag))
      | some .flowSeq =>
        skip
        named name (return .seq (← flowItems n true))
      | some .flowMap =>
        skip
        named name (return .map (← flowPairs n true))
      | some .blockEntry =>
        if inMap then named name (return .seq (← items n))
        else bare name tag
      | some .blockSeq =>
        if block then
          skip
          named name (return .seq (← blockItems n))
        else bare name tag
      | some .blockMap =>
        if block then
          skip
          named name (return .map (← blockPairs n))
        else bare name tag
      | _ => bare name tag

/-- A value, or nothing if one of these tokens comes next. -/
def nodeUnless : Nat → (block inMap : Bool) → List Token → Builder Yaml
  | 0, _, _, _ => refuse
  | n + 1, block, inMap, ends => do
    let next ← peek
    if next.any ends.contains then return nothing else node n block inMap

/-- The items of a block sequence up to its end. -/
def blockItems : Nat → Builder (List Yaml)
  | 0 => refuse
  | n + 1 => do
    if ← pass .blockEntry then
      let item ← nodeUnless n true false [.blockEntry, .blockEnd]
      return item :: (← blockItems n)
    else if ← pass .blockEnd then return []
    else refuse

/-- The items of a sequence at the column of its key. -/
def items : Nat → Builder (List Yaml)
  | 0 => refuse
  | n + 1 => do
    if ← pass .blockEntry then
      let item ← nodeUnless n true false [.blockEntry, .key, .value, .blockEnd]
      return item :: (← items n)
    else return []

/-- The pairs of a block mapping up to its end. -/
def blockPairs : Nat → Builder (List (Yaml × Yaml))
  | 0 => refuse
  | n + 1 => do
    if ← pass .key then
      let key ← nodeUnless n true true [.key, .value, .blockEnd]
      let value ←
        if ← pass .value then nodeUnless n true true [.key, .value, .blockEnd] else pure nothing
      return (key, value) :: (← blockPairs n)
    else if ← pass .blockEnd then return []
    else refuse

/-- The items of a flow sequence up to its end. A key with a value is an item of its own; where
such a key is left out, the token behind its mark is passed over. -/
def flowItems : Nat → (first : Bool) → Builder (List Yaml)
  | 0, _ => refuse
  | n + 1, first => do
    if ← pass .flowSeqEnd then return []
    else if !(← passComma first) then refuse
    else if ← pass .flowSeqEnd then return []
    else if ← pass .key then
      let key ←
        if ← sees [.value, .flowEntry, .flowSeqEnd] then
          skip
          pure nothing
        else node n false false
      let value ←
        if ← pass .value then nodeUnless n false false [.flowEntry, .flowSeqEnd] else pure nothing
      return .map [(key, value)] :: (← flowItems n false)
    else
      let item ← node n false false
      return item :: (← flowItems n false)

/-- The pairs of a flow mapping up to its end. -/
def flowPairs : Nat → (first : Bool) → Builder (List (Yaml × Yaml))
  | 0, _ => refuse
  | n + 1, first => do
    if ← pass .flowMapEnd then return []
    else if !(← passComma first) then refuse
    else if ← pass .flowMapEnd then return []
    else if ← pass .key then
      let key ← nodeUnless n false false [.value, .flowEntry, .flowMapEnd]
      let value ←
        if ← pass .value then nodeUnless n false false [.flowEntry, .flowMapEnd] else pure nothing
      return (key, value) :: (← flowPairs n false)
    else
      let key ← node n false false
      return (key, nothing) :: (← flowPairs n false)

end

/-! ## Documents -/

/-- Reads directives: one version, which is 1.1 or 1.2, and handles, none of them twice. -/
def directives : Nat → (versioned : Bool) → Builder Unit
  | 0, _ => refuse
  | n + 1, versioned => do
    match ← peek with
    | some (.directive (.version major minor)) =>
      if versioned || major != 1 || !(minor == 1 || minor == 2) then refuse
      else
        skip
        directives n true
    | some (.directive (.handle name start)) =>
      let b ← get
      if b.handles.any (·.1 == name) then refuse
      else
        set { b with handles := (name, start) :: b.handles }
        skip
        directives n versioned
    | _ => pure ()

/-- The handles that need no directive. -/
def knownHandles : List (String × String) := [("!", "!"), ("!!", "tag:yaml.org,2002:")]

/-- Reads the value of a document. With directives or its mark it may be left out. -/
def document (fuel : Nat) : Builder Yaml := do
  let isMarked := match ← peek with
    | some (.directive _) | some .documentStart => true
    | _ => false
  if isMarked then directives fuel false
  modify (fun b => { b with handles := b.handles ++ knownHandles })
  if !isMarked then node fuel true false
  else if !(← pass .documentStart) then refuse
  else
    match ← peek with
    | none | some (.directive _) | some .documentStart | some .documentEnd => return nothing
    | _ => node fuel true false

/-- Passes the marks that end a document. -/
def passEnds : Nat → Builder Unit
  | 0 => pure ()
  | n + 1 => do if ← pass .documentEnd then passEnds n

end Builder

/-- Reads a text that is one document. A text without one stands for nothing. -/
def parse? (s : String) : Option Document := do
  let tokens ← tokens? s
  if tokens.isEmpty then return { root := nothing }
  else
    let fuel := 4 * tokens.length + 4
    let (root, b) ← ((do
      let root ← Builder.document fuel
      Builder.passEnds fuel
      return root) : Builder Yaml).run { tokens }
    if b.tokens.isEmpty then return { root, targets := b.targets } else none

end SchemaChart.Data.Yaml
