import RowText.Number.Digits

namespace RowText

structure DecimalType where
  precision : UInt8
  scale : UInt8
deriving DecidableEq

namespace DecimalType

def maxPrecision : Nat := 38

def maxCompactPrecision : Nat := 18

def isValid (t : DecimalType) : Bool :=
  1 ≤ t.precision.toNat && t.precision.toNat ≤ maxPrecision && t.scale ≤ t.precision

def create (precision scale : UInt8) : Except Error DecimalType :=
  if precision = 0 ∨ maxPrecision < precision.toNat then
    .error (.invalidArgument
      s!"decimal precision {precision.toNat} must be between 1 and {maxPrecision}")
  else if precision < scale then
    .error (.invalidArgument s!"decimal scale {scale.toNat} exceeds precision {precision.toNat}")
  else .ok ⟨precision, scale⟩

def require (precision scale : UInt8) : Checked DecimalType :=
  Error.expect "invalid decimal type" (create precision scale)

def isCompact (t : DecimalType) : Bool := t.precision.toNat ≤ maxCompactPrecision

def render (t : DecimalType) : String := s!"decimal({t.precision.toNat}, {t.scale.toNat})"

end DecimalType

def numDigits (value : Nat) : Nat :=
  if value < 10 then 1 else numDigits (value / 10) + 1

structure Decimal where
  unscaled : Int
  type : DecimalType
deriving DecidableEq

namespace Decimal

def fit? (unscaled : Int) (type : DecimalType) : Option Decimal :=
  if numDigits unscaled.natAbs ≤ type.precision.toNat then some ⟨unscaled, type⟩ else none

def create (unscaled : Int) (type : DecimalType) : Except Error Decimal :=
  match fit? unscaled type with
  | some decimal => .ok decimal
  | none =>
    .error (.invalidArgument s!"unscaled value {unscaled} does not fit {type.render}")

def zero (type : DecimalType) : Decimal := ⟨0, type⟩

def padDigits (width : Nat) (digits : List Char) : List Char :=
  List.replicate (width - digits.length) '0' ++ digits

def render (d : Decimal) : String :=
  let digits := Nat.toDigits 10 d.unscaled.natAbs
  let sign := if d.unscaled < 0 then ['-'] else []
  let scale := d.type.scale.toNat
  if scale = 0 then String.ofList (sign ++ digits)
  else
    let digits := padDigits (scale + 1) digits
    let point := digits.length - scale
    String.ofList (sign ++ digits.take point ++ '.' :: digits.drop point)

end Decimal

end RowText
