-- Texts by the bytes they take in UTF-8.

namespace SchemaChart.Text

/-- Bytes that a text takes. -/
def byteSize (cs : List Char) : Nat := cs.foldl (fun n c => n + c.utf8Size) 0

/-- The part of a text from the first character at or behind a byte offset, with the offset of
that character; `passed` bytes stand before the text. -/
def fromByte (offset passed : Nat) : List Char → Nat × List Char
  | [] => (passed, [])
  | c :: cs =>
    if offset ≤ passed then (passed, c :: cs) else fromByte offset (passed + c.utf8Size) cs

/-- The characters of the first `n` bytes and the text behind them, if a character ends there. -/
def splitBytes? (n : Nat) (cs : List Char) : Option (List Char × List Char) :=
  match fromByte n 0 cs with
  | (offset, rest) => if offset == n then some (cs.take (cs.length - rest.length), rest) else none

/-- The first byte of a character. -/
def firstByte (c : Char) : Nat :=
  let n := c.toNat
  if n < 0x80 then n
  else if n < 0x800 then 0xC0 + n / 0x40
  else if n < 0x10000 then 0xE0 + n / 0x1000
  else 0xF0 + n / 0x40000

/-- The last byte of a character. -/
def lastByte (c : Char) : Nat := if c.toNat < 0x80 then c.toNat else 0x80 + c.toNat % 0x40

end SchemaChart.Text
