import RowText.Number.Digits
import RowText.Utf8.Decode

namespace RowText

def IntWidth.name : IntWidth → String
  | w8 => "i8"
  | w16 => "i16"
  | w32 => "i32"
  | w64 => "i64"
  | w128 => "i128"

def IntWidth.overflowError (w : IntWidth) (value : String) : Error :=
  .compute s!"{value} overflows {w.name}"

def subtractDigits? (w : IntWidth) (value : Int) : List UInt8 → Option Int
  | [] => some value
  | digit :: rest =>
    match w.fit? (value * 10) with
    | none => none
    | some shifted =>
      match w.fit? (shifted - digitValue digit) with
      | none => none
      | some value => subtractDigits? w value rest

def splitPoint (bytes : List UInt8) : List UInt8 × List UInt8 :=
  (bytes.takeWhile (· != 0x2E), (bytes.dropWhile (· != 0x2E)).drop 1)

def parseInteger (bytes : List UInt8) : Except Error (Option Int) :=
  let (negative, digits) := splitSign bytes
  if digits.isEmpty then .ok none
  else
    let (whole, fraction) := splitPoint digits
    if !(whole ++ fraction).all isDigit then .ok none
    else
      let overflow := IntWidth.w64.overflowError (Utf8.decodeText bytes)
      match subtractDigits? .w64 0 whole with
      | none => .error overflow
      | some value =>
        if negative then .ok (some value)
        else
          match IntWidth.w64.fit? (-value) with
          | none => .error overflow
          | some value => .ok (some value)

def parseIntegerAs (w : IntWidth) (bytes : List UInt8) : Except Error (Option Int) := do
  match ← parseInteger bytes with
  | none => return none
  | some value => if w.holds value then return some value else throw (w.overflowError s!"{value}")

end RowText
