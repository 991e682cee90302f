import RowText.Fault

namespace RowText

def byteSlice (bytes : List UInt8) (start stop : Nat) : List UInt8 :=
  (bytes.drop start).take (stop - start)

def compareRanges (lhs rhs : List UInt8) (lhsOffset rhsOffset length : Nat) : Checked Ordering := do
  checkRange lhsOffset length lhs.length
  checkRange rhsOffset length rhs.length
  return compare (byteSlice lhs lhsOffset (lhsOffset + length))
    (byteSlice rhs rhsOffset (rhsOffset + length))

structure Segment where
  bytes : List UInt8
deriving DecidableEq

namespace Segment

def empty : Segment := ⟨[]⟩

def size (s : Segment) : Nat := s.bytes.length

def get (s : Segment) (index : Nat) : Checked UInt8 :=
  match s.bytes[index]? with
  | some byte => .ok byte
  | none => .error (.outOfBounds index s.size)

def range (s : Segment) (offset length : Nat) : Checked (List UInt8) := do
  checkRange offset length s.size
  return byteSlice s.bytes offset (offset + length)

def getInto (s : Segment) (offset : Nat) (target : List UInt8) : Checked (List UInt8) :=
  s.range offset target.length

inductive Bound
  | unbounded
  | included (index : Nat)
  | excluded (index : Nat)
deriving DecidableEq

def Bound.start : Bound → Nat
  | unbounded => 0
  | included index => index
  | excluded index => Word.addSat index 1

def Bound.stop (size : Nat) : Bound → Nat
  | unbounded => size
  | included index => Word.addSat index 1
  | excluded index => index

def reversedRange (start stop : Nat) : Fault :=
  .error (.invalidArgument s!"range start must not be greater than end: {start} <= {stop}")

def slice (s : Segment) (lower upper : Bound) : Checked Segment :=
  let start := lower.start
  let stop := upper.stop s.size
  if stop < start then
    .error (reversedRange start stop)
  else do
    checkRange start (stop - start) s.size
    return ⟨byteSlice s.bytes start stop⟩

def compareTo (s : Segment) (other : List UInt8) (offset otherOffset length : Nat) :
    Checked Ordering :=
  compareRanges s.bytes other offset otherOffset length

def equalTo (s : Segment) (other : List UInt8) (offset otherOffset length : Nat) :
    Checked Bool := do
  return (← s.compareTo other offset otherOffset length) == .eq

end Segment

end RowText
