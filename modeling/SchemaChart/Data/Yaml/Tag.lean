-- What stands before YAML values and documents: names, tags and directives.
import SchemaChart.Data.Yaml.Basic

namespace SchemaChart.Data.Yaml

/-- A name behind its indicator, and the place behind it. -/
def name? (p : Place) : Option (String × Place) :=
  let cs := (p.rest.drop 1).takeWhile isNameChar
  let q := p.skip (cs.length + 1)
  if cs.isEmpty || !(atGap q.rest || q.hasAny "?:,]\x7d%@`") then none
  else some (String.ofList cs, q)

/-! ## Tags -/

def isTagChar (c : Char) : Bool := isNameChar c || ";/?:@&=+$.%!~*'()".toList.contains c

/-- The characters of a tag that is written out. -/
def isUriChar (c : Char) : Bool := isTagChar c || c == ',' || c == '[' || c == ']'

/-- How many bytes a character has that starts with this one. -/
def octets? (byte : Nat) : Option Nat :=
  if byte < 0x80 then some 1
  else if byte < 0xC0 then none
  else if byte < 0xE0 then some 2
  else if byte < 0xF0 then some 3
  else if byte < 0xF8 then some 4
  else none

/-- A tag with its bytes that are written as a percent sign and two digits, each as a character.
The bytes of one character stand together; `due` of them are still to come. -/
def unescape? (due : Nat) : List Char → Option (List Char)
  | '%' :: a :: b :: cs => do
    let high ← Json.hexValue? a
    let low ← Json.hexValue? b
    let byte := 16 * high + low
    let left ←
      if due == 0 then (octets? byte).map (· - 1)
      else if 0x80 ≤ byte && byte < 0xC0 then some (due - 1)
      else none
    return Char.ofNat byte :: (← unescape? left cs)
  | '%' :: _ => none
  | c :: cs => if due == 0 then (unescape? 0 cs).map (c :: ·) else none
  | [] => if due == 0 then some [] else none

/-- The text of a tag. It ends before a null character. -/
def tagText? (cs : List Char) : Option String := do
  return String.ofList ((← unescape? 0 cs).takeWhile (· != Char.ofNat 0))

/-- A handle of tags: an exclamation mark, or a name between two. -/
def handle (cs : List Char) : List Char :=
  let name := (cs.drop 1).takeWhile isNameChar
  if (cs.drop (name.length + 1)).head? == some '!' then cs.take (name.length + 2) else ['!']

/-- A tag as a handle and what follows it, and the place behind it. One that is written out, and
the mark alone, have no handle. In flow text a comma may follow. -/
def tag? (flow : Bool) (p : Place) : Option (String × String × Place) := do
  let (h, s, q) ←
    if p.rest.take 2 == ['!', '<'] then do
      let uri := (p.rest.drop 2).takeWhile isUriChar
      let q := p.skip (uri.length + 2)
      if uri.isEmpty || !q.has '>' then none
      else pure ("", ← tagText? uri, q.next)
    else do
      let h := handle p.rest
      let suffix := (p.rest.drop h.length).takeWhile isTagChar
      let q := p.skip (h.length + suffix.length)
      if suffix.isEmpty && h.length > 1 then none
      else
        let s ← tagText? suffix
        if h.length == 1 && s.isEmpty then pure ("", "!", q) else pure (String.ofList h, s, q)
  if atGap q.rest || (flow && q.has ',') then return (h, s, q) else none

/-! ## Directives -/

/-- What is said of a document before it starts: its version, or what a handle of tags stands
for. -/
inductive Directive where
  | version (major minor : Nat)
  | handle (name start : String)
deriving Repr, DecidableEq

/-- A number of a version, and the place behind it. It has at most nine digits. -/
def versionNumber? (p : Place) : Option (Nat × Place) :=
  let ds := p.rest.takeWhile Char.isDigit
  if ds.isEmpty || ds.length > 9 then none else some (Json.natOfDigits ds, p.skip ds.length)

/-- A directive from its percent sign on, and the place behind its line. -/
def directive? (p : Place) : Option (Directive × Place) := do
  let name := (p.rest.drop 1).takeWhile isNameChar
  let q := p.skip (name.length + 1)
  if !atGap q.rest then none
  else
    let q := q.skipWhile isSpace
    if name == "YAML".toList then
      let (major, q) ← versionNumber? q
      if !q.has '.' then none
      else
        let (minor, q) ← versionNumber? q.next
        return (.version major minor, ← q.endLine?)
    else if name == "TAG".toList then
      let h := handle q.rest
      let r := q.skip h.length
      let s := r.skipWhile isSpace
      let uri := s.rest.takeWhile isUriChar
      let t := s.skip uri.length
      if !q.has '!' || !r.rest.head?.any isSpace || uri.isEmpty || !atGap t.rest then none
      else return (.handle (String.ofList h) (← tagText? uri), ← t.endLine?)
    else none

end SchemaChart.Data.Yaml
