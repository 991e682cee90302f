import RowText.Segment.Buffer

namespace RowText

def hexPair (byte : UInt8) : List Char :=
  [Nat.digitChar (byte.toNat / 16), Nat.digitChar (byte.toNat % 16)]

def escapeByte (byte : UInt8) : List Char :=
  if byte = 0x09 then ['\\', 't']
  else if byte = 0x0D then ['\\', 'r']
  else if byte = 0x0A then ['\\', 'n']
  else if byte = 0x27 then ['\\', '\'']
  else if byte = 0x22 then ['\\', '"']
  else if byte = 0x5C then ['\\', '\\']
  else if 0x20 ≤ byte ∧ byte < 0x7F then [Char.ofNat byte.toNat]
  else '\\' :: 'x' :: hexPair byte

def previewLength : Nat := 32

def bytePreview (bytes : List UInt8) : String :=
  let shown := String.ofList ((bytes.take previewLength).flatMap escapeByte)
  let more :=
    if previewLength < bytes.length then s!"..{bytes.length - previewLength} more" else ""
  s!"b\"{shown}\"{more}"

def previewAs (name : String) (bytes : List UInt8) : String :=
  s!"{name} \x7b len: {bytes.length}, bytes: {bytePreview bytes} \x7d"

def Segment.preview (s : Segment) : String := previewAs "Segment" s.bytes

def Buffer.preview (b : Buffer) : String := previewAs "SegmentMut" b.bytes

end RowText
