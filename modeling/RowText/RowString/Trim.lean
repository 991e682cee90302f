import RowText.RowString.Basic

namespace RowText

def leadingRun {α : Type} (test : α → Bool) (xs : List α) : Nat :=
  (xs.takeWhile test).length

/-- The indices between which a list remains after the runs at the requested ends are taken off;
the run at the end stops where the one at the front stopped. -/
def trimmedRange {α : Type} (test : α → Bool) (leading trailing : Bool) (xs : List α) : Nat × Nat :=
  let first := if leading then leadingRun test xs else 0
  let rest := xs.drop first
  let last := if trailing then xs.length - leadingRun test rest.reverse else xs.length
  (first, last)

namespace RowString

def isBlankByte (byte : UInt8) : Bool := byte ≤ 0x20

def blankRange (s : RowString) (leading trailing : Bool) : Nat × Nat :=
  trimmedRange isBlankByte leading trailing s.bytes

def trimBlank (s : RowString) (leading trailing : Bool) : RowString :=
  s.piece (some (s.blankRange leading trailing))

def trim (s : RowString) : RowString := s.trimBlank true true

def trimmedBytes? (bytes set : List UInt8) (leading trailing : Bool) : Option (Nat × Nat) :=
  let members := Utf8.chars set
  let (first, last) := trimmedRange (members.contains ·) leading trailing (Utf8.chars bytes)
  if first = last then none
  else
    let ranges := Utf8.charRanges bytes
    match ranges[first]?, ranges[last - 1]? with
    | some (start, _), some (_, stop) => some (start, stop)
    | _, _ => none

def trimWith (s : RowString) (leading trailing : Bool) (set : RowString) : RowString :=
  s.piece (trimmedBytes? s.bytes set.bytes leading trailing)

end RowString

end RowText
