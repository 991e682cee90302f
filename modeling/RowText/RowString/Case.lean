import RowText.RowString.Basic
import RowText.Unicode.CaseMap

namespace RowText

def isAsciiByte (byte : UInt8) : Bool := byte < 0x80

def upperByte (byte : UInt8) : UInt8 :=
  if 0x61 ≤ byte ∧ byte ≤ 0x7A then byte - 0x20 else byte

def lowerByte (byte : UInt8) : UInt8 :=
  if 0x41 ≤ byte ∧ byte ≤ 0x5A then byte + 0x20 else byte

namespace RowString

def isAscii (s : RowString) : Bool := s.bytes.all isAsciiByte

namespace Reading

def mapCase (byteMap : UInt8 → UInt8) (textMap : List Char → List Char) : Reading RowString := do
  let bytes ← Reading.bytes
  if bytes.all isAsciiByte then return ofBytes (bytes.map byteMap)
  else return ofText (String.ofList (textMap (← Reading.text).toList))

def upper : Reading RowString := mapCase upperByte Unicode.upper

def lower : Reading RowString := mapCase lowerByte Unicode.lower

end Reading

def mapCase (byteMap : UInt8 → UInt8) (textMap : List Char → List Char) (s : RowString) :
    RowString :=
  (Reading.mapCase byteMap textMap).value s

def upper (s : RowString) : RowString := Reading.upper.value s

def lower (s : RowString) : RowString := Reading.lower.value s

theorem upper_eq (s : RowString) : s.upper = s.mapCase upperByte Unicode.upper := rfl

theorem lower_eq (s : RowString) : s.lower = s.mapCase lowerByte Unicode.lower := rfl

theorem mapCase_eq (byteMap : UInt8 → UInt8) (textMap : List Char → List Char) (s : RowString) :
    s.mapCase byteMap textMap =
      if s.isAscii then ofBytes (s.bytes.map byteMap)
      else ofText (String.ofList (textMap s.asText.toList)) := by
  change ((if s.isAscii then _ else _ : Reading RowString) s).1 = _
  split <;> rfl

theorem mapCase_after (byteMap : UInt8 → UInt8) (textMap : List Char → List Char) (s : RowString) :
    (Reading.mapCase byteMap textMap).after s = if s.isAscii then s else s.decoded := by
  change ((if s.isAscii then _ else _ : Reading RowString) s).2 = _
  split <;> rfl

end RowString

end RowText
