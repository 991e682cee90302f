import RowText.RowString.Basic

namespace RowText

namespace Utf8

def subrange? (bytes : List UInt8) (start stop : Nat) : Option (Nat × Nat) :=
  let ranges := charRanges bytes
  match ranges[start]? with
  | some (begin, _) =>
    match ranges[stop]? with
    | some (finish, _) => some (begin, finish)
    | none => some (begin, bytes.length)
  | none => none

def reverseChars (bytes : List UInt8) : List UInt8 :=
  (chars bytes).reverse.flatten

end Utf8

namespace RowString

def numChars (s : RowString) : Nat :=
  match s.contiguousBytes? with
  | some bytes => Utf8.countChars [bytes]
  | none => Utf8.countChars s.span.chunks

def substringRange? (s : RowString) (start stop : Nat) : Option (Nat × Nat) :=
  if stop ≤ start ∨ s.length ≤ start then none else Utf8.subrange? s.bytes start stop

def substring (s : RowString) (start stop : Nat) : RowString :=
  s.piece (s.substringRange? start stop)

/-- The window of character indices that a one-based position and a length name, before it is
clipped at the start; a negative position counts from the end, and zero is like one. -/
def sqlWindow (count : Nat) (position : Int) (length : Option Nat) : Checked (Int × Int) := do
  let count := IntWidth.w64.clamp count
  let start ←
    if position > 0 then IntWidth.w64.exact "subtract" (position - 1)
    else if position < 0 then IntWidth.w64.exact "add" (count + position)
    else pure 0
  let stop ← match length with
    | some length => IntWidth.w64.exact "add" (start + length)
    | none => pure count
  return (start, stop)

def windowRange? (s : RowString) (position : Int) (length : Option Nat) :
    Checked (Option (Nat × Nat)) := do
  if s.isEmpty then return none
  else
    let (start, stop) ← sqlWindow s.numChars position length
    let start := max start 0
    return if stop ≤ start then none else s.substringRange? start.toNat stop.toNat

def window (s : RowString) (position : Int) (length : Option Nat) : Checked RowString := do
  return s.piece (← s.windowRange? position length)

def substringSql (s : RowString) (position : Int) (length : Option Int) :
    Checked (Option RowString) := do
  match length with
  | none => return some (← s.window position none)
  | some length =>
    if length < 0 then return none else return some (← s.window position (some length.toNat))

def reverse (s : RowString) : RowString :=
  if s.isEmpty then empty else ofBytes (Utf8.reverseChars s.bytes)

end RowString

end RowText
