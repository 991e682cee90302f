import RowText.Decimal.Basic
import RowText.Decimal.Literal
import RowText.Utf8.Encode

/-!
Reading a decimal of a given type, rounded to its scale with halves away from zero.

`Decimal.parseBytes` takes literals of any length and drops digits in 128-bit arithmetic.
`Decimal.parseCompact` takes short literals and compact types, and divides in 64-bit arithmetic.
An intermediate result outside of the width abandons the call.
-/

namespace RowText.Decimal

def accumulate? (value : Int) : List Nat → Option Int
  | [] => some value
  | digit :: rest =>
    match IntWidth.w128.fit? (value * 10) with
    | none => none
    | some shifted =>
      match IntWidth.w128.fit? (shifted + digit) with
      | none => none
      | some value => accumulate? value rest

def appendZeros? (value : Int) : Nat → Option Int
  | 0 => some value
  | zeros + 1 =>
    match IntWidth.w128.fit? (value * 10) with
    | none => none
    | some shifted => appendZeros? shifted zeros

def widenDigits? (digits : List Nat) (zeros precision : Nat) : Option Int :=
  if precision < Word.addSat digits.length zeros then none
  else
    match accumulate? 0 digits with
    | none => none
    | some value => appendZeros? value zeros

def roundDigits (digits : List Nat) (dropped precision : Nat) : Checked (Option Int) :=
  if digits.length < dropped then .ok (some 0)
  else
    let kept := digits.take (digits.length - dropped)
    let rest := digits.drop (digits.length - dropped)
    if precision < kept.length then .ok none
    else
      let carry : Int := if rest.head?.any (5 ≤ ·) then 1 else 0
      match accumulate? 0 kept with
      | none => .ok none
      | some value => do return some (← IntWidth.w128.exact "add" (value + carry))

def rescaleDigits (digits : List Nat) (change : Int) (precision : Nat) : Checked (Option Int) :=
  if 0 ≤ change then .ok (widenDigits? digits change.toNat precision)
  else roundDigits digits change.natAbs precision

def ofMagnitude (w : IntWidth) (negative : Bool) (magnitude : Int) (type : DecimalType) :
    Checked (Option Decimal) := do
  let unscaled ← if negative then w.exact "negate" (-magnitude) else pure magnitude
  return fit? unscaled type

/-- The decimal that the bytes denote: absent if they are malformed or it has too many digits. -/
def parseBytes (bytes : List UInt8) (type : DecimalType) : Checked (Option Decimal) := do
  match DecimalLiteral.lex? bytes with
  | none => return none
  | some literal =>
    let digits := literal.digits.dropWhile (· == 0)
    if digits.isEmpty then return some (zero type)
    else
      let change := IntWidth.w64.clamp (literal.scaleExponent + type.scale.toNat)
      match ← rescaleDigits digits change type.precision.toNat with
      | none => return none
      | some magnitude => ofMagnitude .w128 literal.negative magnitude type

def parse (literal : String) (type : DecimalType) : Checked (Option Decimal) :=
  parseBytes (Utf8.encodeText literal) type

def powersOfTen : List Int := (List.range 19).map fun n => (Nat.pow 10 n : Int)

def powerOfTen (exponent : Nat) : Checked Int :=
  match powersOfTen[exponent]? with
  | some power => .ok power
  | none => .error (.lookup exponent powersOfTen.length)

def compactMantissa (value : Int) (significant : Int) : List Nat → Checked (Int × Int)
  | [] => .ok (value, significant)
  | digit :: rest => do
    let shifted ← IntWidth.w64.exact "multiply" (value * 10)
    let value ← IntWidth.w64.exact "add" (shifted + digit)
    let significant ←
      if value = 0 then pure significant else IntWidth.w64.exact "add" (significant + 1)
    compactMantissa value significant rest

def compactQuotient (mantissa : Int) (exponent : Nat) : Checked Int := do
  let divisor ← powerOfTen exponent
  let half ← IntWidth.w64.exact "multiply" (5 * (divisor / 10))
  let sum ← IntWidth.w64.exact "add" (mantissa + half)
  return sum / divisor

def compactRescale (mantissa significant change : Int) (precision : Nat) :
    Checked (Option Int) := do
  if 0 ≤ change then
    let digits ← IntWidth.w64.exact "add" (significant + change)
    if (precision : Int) < digits then return none
    else
      let power ← powerOfTen change.toNat
      return some (← IntWidth.w64.exact "multiply" (mantissa * power))
  else if change < -18 then return some 0
  else return some (← compactQuotient mantissa change.natAbs)

def parseCompact (bytes : List UInt8) (type : DecimalType) : Checked (Option Decimal) := do
  if !(type.isCompact && bytes.length ≤ DecimalType.maxCompactPrecision) then
    throw (.promise "a compact type and at most 18 bytes")
  match DecimalLiteral.lex? bytes with
  | none => return none
  | some literal =>
    let (mantissa, significant) ← compactMantissa 0 0 literal.digits
    if mantissa = 0 then return some (zero type)
    else
      let change := IntWidth.w64.clamp (literal.scaleExponent + type.scale.toNat)
      match ← compactRescale mantissa significant change type.precision.toNat with
      | none => return none
      | some magnitude => ofMagnitude .w64 literal.negative magnitude type

def usesCompact (type : DecimalType) (length : Nat) : Bool :=
  type.isCompact && length ≤ DecimalType.maxCompactPrecision

def cast (bytes : List UInt8) (type : DecimalType) : Checked (Option Decimal) :=
  if usesCompact type bytes.length then parseCompact bytes type else parseBytes bytes type

end RowText.Decimal
