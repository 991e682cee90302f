import RowText.Number.Digits

namespace RowText

structure DecimalLiteral where
  negative : Bool
  whole : List UInt8
  fraction : List UInt8
  exponent : Int
deriving DecidableEq

namespace DecimalLiteral

def appendDigits (value : Int) : List UInt8 → Int
  | [] => value
  | digit :: rest =>
    let shifted := IntWidth.w64.clamp (value * 10)
    appendDigits (IntWidth.w64.clamp (shifted + digitValue digit)) rest

def exponent? (bytes : List UInt8) : Option Int :=
  let (negative, digits) := splitSign bytes
  if digits.isEmpty || !digits.all isDigit then none
  else
    let magnitude := appendDigits 0 digits
    some (if negative then -magnitude else magnitude)

def splitFraction : List UInt8 → List UInt8 × List UInt8
  | 0x2E :: tail => splitDigits tail
  | bytes => ([], bytes)

def trailingExponent? : List UInt8 → Option Int
  | [] => some 0
  | mark :: tail => if mark == 0x65 || mark == 0x45 then exponent? tail else none

def lex? (bytes : List UInt8) : Option DecimalLiteral :=
  let (negative, rest) := splitSign (trimSpace bytes)
  let (whole, rest) := splitDigits rest
  let (fraction, rest) := splitFraction rest
  if whole.isEmpty && fraction.isEmpty then none
  else
    (trailingExponent? rest).map fun exponent => ⟨negative, whole, fraction, exponent⟩

def digits (l : DecimalLiteral) : List Nat := (l.whole ++ l.fraction).map digitValue

def scaleExponent (l : DecimalLiteral) : Int :=
  IntWidth.w64.clamp (l.exponent - IntWidth.w64.clamp l.fraction.length)

end DecimalLiteral

end RowText
