import RowText.RowString.Basic

namespace RowText.RowString

def bothContiguous? (a b : RowString) : Option (List UInt8 × List UInt8) :=
  match a.contiguousBytes?, b.contiguousBytes? with
  | some lhs, some rhs => some (lhs, rhs)
  | _, _ => none

def compareTo (a b : RowString) : Ordering :=
  match a.bothContiguous? b with
  | some (lhs, rhs) => compare lhs rhs
  | none => a.span.compareTo b.span

def partialCompareTo (a b : RowString) : Option Ordering := some (a.compareTo b)

def comparesBySpan (a b : RowString) : Bool := (a.bothContiguous? b).isNone

def equals (a b : RowString) : Bool :=
  a.length == b.length && a.compareTo b == .eq

def equalsText (s : RowString) (value : String) : Bool :=
  let other := Utf8.encodeText value
  s.length == other.length && s.bytes == other

def littleEndian : (count value : Nat) → List UInt8
  | 0, _ => []
  | count + 1, value => .ofNat value :: littleEndian count (value / 0x100)

def lengthBytes (length : Nat) : List UInt8 := littleEndian 8 length

def hashFeed (s : RowString) : List UInt8 :=
  let bytes := s.bytes
  lengthBytes bytes.length ++ bytes

def sort (items : List RowString) : List RowString :=
  items.mergeSort fun a b => (a.compareTo b).isLE

end RowText.RowString
