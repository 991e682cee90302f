import RowText.Number.Digits

namespace RowText

structure BinaryFormat where
  precision : Nat
  exponentBits : Nat
deriving DecidableEq

namespace BinaryFormat

def single : BinaryFormat := ⟨24, 8⟩

def double : BinaryFormat := ⟨53, 11⟩

def topExponent (f : BinaryFormat) : Nat := Nat.pow 2 f.exponentBits - 1

def leastNormal (f : BinaryFormat) : Nat := Nat.pow 2 (f.precision - 1)

def leastPower (f : BinaryFormat) : Nat := Nat.pow 2 (f.exponentBits - 1) + f.precision - 3

def infinity (f : BinaryFormat) : Nat := f.topExponent * f.leastNormal

def notANumber (f : BinaryFormat) : Nat := f.infinity + Nat.pow 2 (f.precision - 2)

def withSign (f : BinaryFormat) (negative : Bool) (bits : Nat) : Nat :=
  if negative then bits + Nat.pow 2 (f.precision - 1 + f.exponentBits) else bits

def divRound (numerator denominator : Nat) : Nat :=
  let quotient := numerator / denominator
  let twice := 2 * (numerator % denominator)
  if twice > denominator ∨ (twice = denominator ∧ quotient % 2 = 1) then quotient + 1 else quotient

def divPower (numerator denominator : Nat) (power : Int) : Nat :=
  if power < 0 then divRound (numerator * Nat.pow 2 (-power).toNat) denominator
  else divRound numerator (denominator * Nat.pow 2 power.toNat)

def ofFraction (f : BinaryFormat) (numerator denominator : Nat) : Nat :=
  let least : Int := -f.leastPower
  let estimate : Int := (numerator.log2 : Int) - denominator.log2 - f.precision
  -- The quotient at the estimate has one bit more than the significand or exactly as many.
  let tooFine := 2 * f.leastNormal ≤ divPower numerator denominator estimate
  let power := max least (if tooFine then estimate + 1 else estimate)
  let significand := divPower numerator denominator power
  let (significand, power) :=
    if 2 * f.leastNormal ≤ significand then (significand / 2, power + 1) else (significand, power)
  if significand < f.leastNormal then significand
  else
    let exponent := (power - least).toNat + 1
    if f.topExponent ≤ exponent then f.infinity
    else exponent * f.leastNormal + (significand - f.leastNormal)

/-- The power of ten beyond which every number is infinite, and below whose negation every number
is zero, in each format. -/
def decimalReach : Nat := 400

def ofDecimal (f : BinaryFormat) (digits : List UInt8) (power : Int) : Nat :=
  let digits := digits.dropWhile (· == 0x30)
  let value := digits.foldl (fun value digit => value * 10 + digitValue digit) 0
  let magnitude : Int := digits.length + power
  if digits.isEmpty then 0
  else if magnitude > decimalReach then f.infinity
  else if magnitude < -decimalReach then 0
  else if power < 0 then f.ofFraction value (Nat.pow 10 (-power).toNat)
  else f.ofFraction (value * Nat.pow 10 power.toNat) 1

end BinaryFormat

def lowerAscii (bytes : List UInt8) : List UInt8 :=
  bytes.map fun byte => if 0x41 ≤ byte ∧ byte ≤ 0x5A then byte + 0x20 else byte

def exponentValue (digits : List UInt8) : Nat :=
  digits.foldl (fun value digit => if value < 0x10000 then value * 10 + digitValue digit else value)
    0

def floatExponent? : List UInt8 → Option Int
  | [] => some 0
  | mark :: rest =>
    if mark == 0x65 || mark == 0x45 then
      let (negative, digits) := splitSign rest
      if digits.isEmpty || !digits.all isDigit then none
      else if negative then some (-(exponentValue digits : Int))
      else some (exponentValue digits)
    else none

def parseFinite? (f : BinaryFormat) (bytes : List UInt8) : Option Nat :=
  let (whole, rest) := splitDigits bytes
  let (fraction, rest) := match rest with
    | 0x2E :: tail => splitDigits tail
    | rest => ([], rest)
  if whole.isEmpty && fraction.isEmpty then none
  else (floatExponent? rest).map fun exponent =>
    f.ofDecimal (whole ++ fraction) (exponent - fraction.length)

def parseFloat? (f : BinaryFormat) (bytes : List UInt8) : Option Nat :=
  let (negative, rest) := splitSign bytes
  let word := (lowerAscii rest).map fun byte => Char.ofNat byte.toNat
  let magnitude :=
    if word == "inf".toList || word == "infinity".toList then some f.infinity
    else if word == "nan".toList then some f.notANumber
    else parseFinite? f rest
  magnitude.map (f.withSign negative)

end RowText
