namespace RowText

namespace Word

def limit : Nat := 0x10000000000000000

def maxAllocation : Nat := 0x7FFFFFFFFFFFFFFF

def add? (a b : Nat) : Option Nat :=
  if a + b < limit then some (a + b) else none

def addSat (a b : Nat) : Nat :=
  min (a + b) (limit - 1)

end Word

inductive IntWidth
  | w8 | w16 | w32 | w64 | w128
deriving DecidableEq

namespace IntWidth

def bits : IntWidth → Nat
  | w8 => 8
  | w16 => 16
  | w32 => 32
  | w64 => 64
  | w128 => 128

def half : IntWidth → Nat
  | w8 => 0x80
  | w16 => 0x8000
  | w32 => 0x80000000
  | w64 => 0x8000000000000000
  | w128 => 0x80000000000000000000000000000000

theorem half_eq (w : IntWidth) : w.half = Nat.pow 2 (w.bits - 1) := by
  cases w <;> rfl

def least (w : IntWidth) : Int := -w.half

def greatest (w : IntWidth) : Int := w.half - 1

def holds (w : IntWidth) (value : Int) : Bool :=
  w.least ≤ value && value ≤ w.greatest

def fit? (w : IntWidth) (value : Int) : Option Int :=
  if w.holds value then some value else none

def clamp (w : IntWidth) (value : Int) : Int :=
  max w.least (min value w.greatest)

end IntWidth

end RowText
