-- The texts of YAML scalars: plain ones, quoted ones, and blocks of lines.
import SchemaChart.Data.Yaml.Basic

namespace SchemaChart.Data.Yaml

/-! ## Lines of one scalar -/

/-- Two lines joined over line ends: a line feed alone is a space, and one before others is
dropped. -/
def joinLines : List Char → List Char
  | [] => []
  | ['\n'] => [' ']
  | '\n' :: more => more
  | breaks => breaks

/-- What blanks and line ends inside a scalar stand for. Blanks next to a line end are dropped. -/
def gapText (gap : List Char) : List Char :=
  if gap.any isBreak then joinLines (gap.filter isBreak) else gap

/-! ## Plain scalars -/

def isFlowMark (c : Char) : Bool := ",[]\x7b\x7d".toList.contains c

/-- The characters of a plain scalar before the next blank. In flow text a colon must not touch a
mark. -/
def plainWord? (flow : Bool) : List Char → Option (List Char)
  | [] => some []
  | c :: cs =>
    if isGap c then some []
    else if flow && c == ':' && cs.head?.any (fun d => isFlowMark d || d == '?') then none
    else if (c == ':' && atGap cs) || (flow && isFlowMark c) then some []
    else (plainWord? flow cs).map (c :: ·)

/-- Does a tab stand before the column `indent` of a new line. The text starts on a new line if
`fresh`. -/
def tabIndents (indent : Nat) (fresh : Bool) (column : Nat) : List Char → Bool
  | [] => false
  | c :: cs =>
    if isBreak c then tabIndents indent true 0 cs
    else (fresh && c == '\t' && column < indent) || tabIndents indent fresh (column + 1) cs

/-- The text of a plain scalar behind a gap, the place behind it, and whether that is on a new
line. In block text the scalar ends before a line that is not indented by `indent`. -/
def plainFrom? (flow : Bool) (indent : Nat) :
    Nat → List Char → Place → Option (List Char × Place × Bool)
  | 0, _, _ => none
  | n + 1, gap, p =>
    if p.atAnyMark || p.has '#' then some ([], p, gap.any isBreak)
    else do
      let word ← plainWord? flow p.rest
      if word.isEmpty then return ([], p, gap.any isBreak)
      else
        let q := p.skip word.length
        let between := q.rest.takeWhile isGap
        let r := q.skip between.length
        let text := gapText gap ++ word
        if tabIndents indent false 0 between then none
        else if between.isEmpty || (!flow && r.column < indent) then
          return (text, r, between.any isBreak)
        else
          let (more, s, fresh) ← plainFrom? flow indent n between r
          return (text ++ more, s, fresh)

/-- A plain scalar, the place behind it, and whether that is on a new line. -/
def plain? (flow : Bool) (indent : Nat) (p : Place) : Option (String × Place × Bool) := do
  let (cs, q, fresh) ← plainFrom? flow indent (p.rest.length + 1) [] p
  return (String.ofList cs, q, fresh)

/-! ## Quoted scalars -/

/-- What a letter behind a backslash stands for in double quotes. -/
def escape? : Char → Option Char
  | '0' => some (Char.ofNat 0)
  | 'a' => some (Char.ofNat 7)
  | 'b' => some (Char.ofNat 8)
  | 't' => some '\t'
  | '\t' => some '\t'
  | 'n' => some '\n'
  | 'v' => some (Char.ofNat 11)
  | 'f' => some (Char.ofNat 12)
  | 'r' => some '\r'
  | 'e' => some (Char.ofNat 27)
  | ' ' => some ' '
  | '"' => some '"'
  | '/' => some '/'
  | '\\' => some '\\'
  | 'N' => some (Char.ofNat 0x85)
  | '_' => some (Char.ofNat 0xA0)
  | 'L' => some (Char.ofNat 0x2028)
  | 'P' => some (Char.ofNat 0x2029)
  | _ => none

/-- How many hexadecimal digits follow a letter behind a backslash. -/
def escapeWidth : Char → Nat
  | 'x' => 2
  | 'u' => 4
  | 'U' => 8
  | _ => 0

/-- The character that hexadecimal digits name. -/
def hexChar? (ds : List Char) : Option Char := do
  let n ← ds.foldlM (fun n d => (Json.hexValue? d).map (16 * n + ·)) 0
  if (0xD800 ≤ n && n ≤ 0xDFFF) || n > 0x10FFFF then none else some (Char.ofNat n)

/-- The text of a quoted scalar up to its closing quote, and the place behind that. A mark of a
document must not stand inside. -/
def quotedFrom? (quote : Char) : Nat → Place → Option (List Char × Place)
  | 0, _ => none
  | n + 1, p =>
    match p.rest with
    | [] => none
    | c :: rest => do
      if p.atAnyMark then none
      else if c == quote then
        if quote == '\'' && rest.head? == some '\'' then
          let (t, r) ← quotedFrom? quote n (p.skip 2)
          return ('\'' :: t, r)
        else return ([], p.next)
      else if c == '\\' && quote == '"' then
        let e ← rest.head?
        let width := escapeWidth e
        let digits := (rest.drop 1).take width
        if isBreak e then
          let q := p.skip 2
          let gap := q.rest.takeWhile isGap
          let (t, r) ← quotedFrom? quote n (q.skip gap.length)
          return (gap.filter isBreak ++ t, r)
        else
          let d ← if width == 0 then escape? e
            else if digits.length < width then none
            else hexChar? digits
          let (t, r) ← quotedFrom? quote n (p.skip (2 + width))
          return (d :: t, r)
      else if isGap c then
        let gap := p.rest.takeWhile isGap
        let (t, r) ← quotedFrom? quote n (p.skip gap.length)
        return (gapText gap ++ t, r)
      else
        let (t, r) ← quotedFrom? quote n p.next
        return (c :: t, r)

/-- A scalar in these quotes, from its opening quote on, and the place behind it. -/
def quoted? (quote : Char) (p : Place) : Option (String × Place) := do
  let (cs, q) ← quotedFrom? quote (p.rest.length + 1) p.next
  return (String.ofList cs, q)

/-! ## Blocks of lines -/

/-- How the line ends at the end of a block are kept. -/
inductive Chomp where
  | strip
  | clip
  | keep
deriving Repr, DecidableEq

/-- What is kept at the end of a block, if the text says so. -/
def Chomp.ofChar? : Char → Option Chomp
  | '-' => some strip
  | '+' => some keep
  | _ => none

/-- The line ends that are kept: that of the last line, and those of the empty lines behind. -/
def Chomp.ending (c : Chomp) (last more : List Char) : List Char :=
  match c with
  | strip => []
  | clip => last
  | keep => last ++ more

/-- The marks behind the indicator of a block, in either order: the further indentation, and what
is kept at the end. -/
def blockHeader? (p : Place) : Option (Option Nat × Chomp × Place) :=
  let chomp (p : Place) : Option Chomp × Place :=
    match p.rest.head?.bind Chomp.ofChar? with
    | some c => (some c, p.next)
    | none => (none, p)
  let digit? (p : Place) : Option (Option Nat × Place) :=
    match p.rest.head? with
    | some d =>
      if d == '0' then none
      else if d.isDigit then some (some (d.toNat - '0'.toNat), p.next)
      else some (none, p)
    | none => some (none, p)
  match chomp p with
  | (some c, q) => (digit? q).map (fun (i, q) => (i, c, q))
  | (none, _) => do
    let (i, q) ← digit? p
    if i.isNone then return (none, .clip, q)
    else
      let (c, q) := chomp q
      return (i, c.getD .clip, q)

/-- The line ends before the next line of a block, the widest indentation of a line that is
passed, and the place of that line behind its indentation. Without `indent` all spaces are
indentation. No tab may stand in the indentation. -/
def blockGap? (indent : Option Nat) : Nat → Nat → Place → Option (List Char × Nat × Place)
  | 0, _, _ => none
  | n + 1, widest, p =>
    let spaces := (p.rest.takeWhile (· == ' ')).length
    let q := p.skip (indent.elim spaces (fun i => min spaces (i - p.column)))
    let widest := max widest q.column
    if q.has '\t' && indent.all (q.column < ·) then none
    else
      match q.rest with
      | [] => some ([], widest, q)
      | c :: _ => do
        if isBreak c then
          let (breaks, widest, r) ← blockGap? indent n widest q.next
          return (c :: breaks, widest, r)
        else return ([], widest, q)

/-- How far the reading of a block has come: its text, the end of its last line, the ends of the
empty lines behind, and whether the last line started with a blank. -/
structure BlockLines where
  text : List Char := []
  last : List Char := []
  more : List Char := []
  blank : Bool := false

/-- A further line. In a folded block one line feed between two lines is a space and one before
others is dropped, unless a line starts with a blank. -/
def BlockLines.add (b : BlockLines) (style : Style) (line last more : List Char) : BlockLines :=
  let blank := line.head?.any isSpace
  let between :=
    if style == .folded && b.last == ['\n'] && !b.blank && !blank then
      if b.more.isEmpty then [' '] else []
    else b.last
  { text := b.text ++ between ++ b.more ++ line, last, more, blank }

/-- The lines of a block with this indentation, and the place behind them. -/
def blockLines? (style : Style) (indent : Nat) :
    Nat → BlockLines → Place → Option (BlockLines × Place)
  | 0, _, _ => none
  | n + 1, b, p =>
    if p.column != indent || p.rest.isEmpty then some (b, p)
    else do
      let line := p.rest.takeWhile (!isBreak ·)
      let q := p.skip line.length
      let (more, _, r) ← blockGap? (some indent) (q.rest.length + 1) 0 q.next
      blockLines? style indent n (b.add style line (q.rest.take 1) more) r

/-- A block of lines from its indicator on, and the place behind it. Its lines are indented by at
least `least`; without a mark, the first of them tells by how much. -/
def block? (style : Style) (least : Nat) (p : Place) : Option (String × Place) := do
  let (further, chomp, q) ← blockHeader? p.next
  let q ← q.endLine?
  let fuel := q.rest.length + 1
  let explicit := further.map (least - 1 + ·)
  let (more, widest, q) ← blockGap? explicit fuel 0 q
  let indent := explicit.getD (max widest (max least 1))
  let (b, q) ← blockLines? style indent fuel { more } q
  return (String.ofList (b.text ++ chomp.ending b.last b.more), q)

end SchemaChart.Data.Yaml
