-- The tokens of a YAML text. A key is known as one only once its colon is seen; its mark is then
-- put before it.
import SchemaChart.Data.Yaml.Scalar
import SchemaChart.Data.Yaml.Tag

namespace SchemaChart.Data.Yaml

/-- A token. Block collections start and end by their indentation. -/
inductive Token where
  | directive (d : Directive)
  | documentStart
  | documentEnd
  | blockSeq
  | blockMap
  | blockEnd
  | flowSeq
  | flowSeqEnd
  | flowMap
  | flowMapEnd
  | blockEntry
  | flowEntry
  | key
  | value
  | alias (name : String)
  | anchor (name : String)
  | tag (handle suffix : String)
  | scalar (text : String) (style : Style)
deriving Repr, DecidableEq

/-- A place where a key may have started: how many tokens there were before, and whether only a
key can be there. -/
structure KeyStart where
  place : Place
  number : Nat
  required : Bool
deriving Repr

/-- Is a key too long at a place, or on a line before it. -/
def KeyStart.isStale (k : KeyStart) (p : Place) : Bool :=
  k.place.line < p.line || k.place.index + 1024 < p.index

/-- How far the reading of tokens has come. -/
structure Scan where
  place : Place
  tokens : Array Token := #[]
  /-- The columns of the open block collections, the innermost first. -/
  indents : List Nat := []
  /-- May a key start here. -/
  keys : Bool := true
  /-- Where a key may have started in the innermost collection. -/
  pending : Option KeyStart := none
  /-- The same for the collections around the open flow collections. -/
  outer : List (Option KeyStart) := []
deriving Repr

namespace Scan

/-- Is a flow collection open. -/
def flow (s : Scan) : Bool := !s.outer.isEmpty

/-- The least column of what belongs to the innermost block collection. -/
def least (s : Scan) : Nat := s.indents.head?.elim 0 (· + 1)

def push (s : Scan) (t : Token) : Scan := { s with tokens := s.tokens.push t }

/-- Adds a token of one character. -/
def mark (s : Scan) (t : Token) : Scan := { s.push t with place := s.place.next }

/-! ## Keys -/

/-- Forgets where a key may have started if it is too far away by now. None if only a key can be
there. -/
def fresh? (p : Place) : Option KeyStart → Option (Option KeyStart)
  | none => some none
  | some k => if !k.isStale p then some (some k) else if k.required then none else some none

/-- Forgets all starts of keys that are too far away. -/
def dropStale? (s : Scan) : Option Scan := do
  return { s with pending := ← fresh? s.place s.pending, outer := ← s.outer.mapM (fresh? s.place) }

/-- Forgets where a key may have started. None if only a key can be there. -/
def forget? (s : Scan) : Option Scan :=
  if s.pending.any (·.required) then none else some { s with pending := none }

/-- Remembers that a key may start here. -/
def remember? (s : Scan) : Option Scan :=
  if !s.keys then some s
  else do
    let required := !s.flow && s.indents.head? == some s.place.column
    return { ← s.forget? with
      pending := some { place := s.place, number := s.tokens.size, required } }

/-! ## Indentation -/

/-- Closes the block collections that do not reach a column. -/
def close (s : Scan) (least : Nat) : Scan :=
  if s.flow then s
  else
    let ended := (s.indents.takeWhile (least ≤ ·)).length
    { s with
      tokens := s.tokens ++ Array.replicate ended .blockEnd, indents := s.indents.drop ended }

/-- Opens a block collection at a column, at a position of the tokens, if there is none. -/
def openBlock (s : Scan) (column number : Nat) (t : Token) : Scan :=
  if s.flow || s.indents.head?.any (column ≤ ·) then s
  else
    { s with
      tokens := s.tokens.extract 0 number ++ #[t] ++ s.tokens.extract number s.tokens.size
      indents := column :: s.indents }

/-- Opens a block collection here. None where no key may start. -/
def openHere? (s : Scan) (t : Token) : Option Scan :=
  if s.flow then some s
  else if s.keys then some (s.openBlock s.place.column s.tokens.size t)
  else none

/-! ## Tokens -/

/-- Moves to the next token. Blanks, line ends and comments are passed. In block text a key may
start on a new line, and where a key may start a tab is not passed. A byte order mark may start a
line. -/
def toToken : Nat → Scan → Scan
  | 0, s => s
  | n + 1, s =>
    let p := s.place
    let p := if p.column == 0 && p.has '\uFEFF' then p.next else p
    let p := p.skipWhile (fun c => c == ' ' || (c == '\t' && (s.flow || !s.keys)))
    let p := if p.has '#' then p.skipWhile (!isBreak ·) else p
    if p.rest.head?.any isBreak then
      toToken n { s with place := p.next, keys := s.keys || !s.flow }
    else { s with place := p }

/-- Closes all block collections, for what stands between documents. -/
def leave? (s : Scan) : Option Scan := (s.close 0).forget?.map ({ · with keys := false })

/-- A value that may be a key, behind which no key may start. -/
def node? (s : Scan) (read : Place → Option (Token × Place)) : Option Scan := do
  let s ← s.remember?
  let (t, place) ← read s.place
  return { s.push t with place, keys := false }

def flowStart? (s : Scan) (t : Token) : Option Scan := do
  let s ← s.remember?
  return { s.mark t with pending := none, outer := s.pending :: s.outer, keys := true }

def flowEnd? (s : Scan) (t : Token) : Option Scan := do
  let s := { ← s.forget? with keys := false }.mark t
  match s.outer with
  | [] => return s
  | k :: outer => return { s with pending := k, outer }

def entry? (s : Scan) : Option Scan := do
  return { ← (← s.openHere? .blockSeq).forget? with keys := true }.mark .blockEntry

def key? (s : Scan) : Option Scan := do
  return { ← (← s.openHere? .blockMap).forget? with keys := !s.flow }.mark .key

/-- A colon. It makes a key of what may have been one. -/
def value? (s : Scan) : Option Scan :=
  match s.pending with
  | some k =>
    let before := s.tokens.extract 0 k.number ++ #[.key]
    let s := { s with
      tokens := before ++ s.tokens.extract k.number s.tokens.size, pending := none, keys := false }
    some ((s.openBlock k.place.column k.number .blockMap).mark .value)
  | none => do
    return { ← s.openHere? .blockMap with keys := !s.flow }.mark .value

def block? (s : Scan) (style : Style) : Option Scan := do
  let s ← s.forget?
  let (t, place) ← Yaml.block? style s.least s.place
  return { s.push (.scalar t style) with place, keys := true }

def plain? (s : Scan) : Option Scan := do
  let s ← s.remember?
  let (t, place, fresh) ← Yaml.plain? s.flow s.least s.place
  return { s.push (.scalar t .plain) with place, keys := fresh }

/-- Can a plain scalar start here. -/
def startsPlain (flow : Bool) (p : Place) : Bool :=
  match p.rest with
  | [] => false
  | c :: cs =>
    if c == '-' then !atGap cs
    else if c == '?' || c == ':' then !flow && !atGap cs
    else !isGap c && !",[]\x7b\x7d#&*!|>'\"%@`".toList.contains c

/-- Reads the token at a place that is not the end. -/
def token? (s : Scan) : Option Scan :=
  let p := s.place
  let is (c : Char) : Bool := p.has c
  let quote (c : Char) : Option Scan :=
    s.node? (fun p => (quoted? c p).map (fun (t, q) => (.scalar t .quoted, q)))
  if p.column == 0 && is '%' then do
    let s ← s.leave?
    let (d, place) ← directive? p
    return { s.push (.directive d) with place }
  else if p.atMark "---" then
    s.leave?.map (fun s => { s.push .documentStart with place := p.skip 3 })
  else if p.atMark "..." then
    s.leave?.map (fun s => { s.push .documentEnd with place := p.skip 3 })
  else if is '[' then s.flowStart? .flowSeq
  else if is '{' then s.flowStart? .flowMap
  else if is ']' then s.flowEnd? .flowSeqEnd
  else if is '}' then s.flowEnd? .flowMapEnd
  else if is ',' then s.forget?.map (fun s => { s with keys := true }.mark .flowEntry)
  else if p.atIndicator '-' then s.entry?
  else if is '?' && (s.flow || p.atIndicator '?') then s.key?
  else if is ':' && (s.flow || p.atIndicator ':') then s.value?
  else if is '*' then s.node? (fun p => (name? p).map (fun (a, q) => (.alias a, q)))
  else if is '&' then s.node? (fun p => (name? p).map (fun (a, q) => (.anchor a, q)))
  else if is '!' then s.node? (fun p => (tag? s.flow p).map (fun (h, t, q) => (.tag h t, q)))
  else if is '|' && !s.flow then s.block? .literal
  else if is '>' && !s.flow then s.block? .folded
  else if is '\'' then quote '\''
  else if is '"' then quote '"'
  else if startsPlain s.flow p then s.plain?
  else none

/-- Reads all tokens. -/
def all? : Nat → Scan → Option (List Token)
  | 0, _ => none
  | n + 1, s => do
    let s ← (s.toToken (s.place.rest.length + 1)).dropStale?
    if s.place.rest.isEmpty then return (← s.leave?).tokens.toList
    else all? n (← (s.close (s.place.column + 1)).token?)

end Scan

/-! ## Texts -/

/-- Line ends as line feeds. Line and paragraph separators are kept. -/
def normalizeLines : List Char → List Char
  | [] => []
  | '\r' :: '\n' :: cs => '\n' :: normalizeLines cs
  | '\r' :: cs => '\n' :: normalizeLines cs
  | c :: cs => (if c == '\u0085' then '\n' else c) :: normalizeLines cs

/-- May a character stand in a text. Control characters may not. -/
def isReadable (c : Char) : Bool :=
  let n := c.toNat
  n == 9 || n == 10 || n == 13 || (0x20 ≤ n && n ≤ 0x7E) || n == 0x85 || (0xA0 ≤ n && n ≤ 0xFFFD)
    || 0x10000 ≤ n

/-- The tokens of a text. -/
def tokens? (s : String) : Option (List Token) :=
  if s.toList.all isReadable then
    let cs := normalizeLines s.toList
    Scan.all? (cs.length + 1) { place := { rest := cs } }
  else none

end SchemaChart.Data.Yaml
