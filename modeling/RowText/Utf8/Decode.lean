import RowText.Utf8.Encode

/-!
Decoding UTF-8 from any bytes, one byte at a time.

A sequence that is cut short or malformed yields one replacement character for the longest part of
it that could have started a character; the byte that broke it is read afresh.
-/

namespace RowText.Utf8

def replacement : Char := '\uFFFD'

structure Pending where
  code : Nat
  owed : Nat
  low : UInt8
  high : UInt8
deriving DecidableEq

def startChar (byte : UInt8) : List Char × Option Pending :=
  if byte < 0x80 then ([Char.ofNat byte.toNat], none)
  else if byte < 0xC2 then ([replacement], none)
  else if byte < 0xE0 then ([], some ⟨byte.toNat - 0xC0, 1, 0x80, 0xBF⟩)
  else if byte < 0xF0 then
    let low := if byte = 0xE0 then 0xA0 else 0x80
    let high := if byte = 0xED then 0x9F else 0xBF
    ([], some ⟨byte.toNat - 0xE0, 2, low, high⟩)
  else if byte < 0xF5 then
    let low := if byte = 0xF0 then 0x90 else 0x80
    let high := if byte = 0xF4 then 0x8F else 0xBF
    ([], some ⟨byte.toNat - 0xF0, 3, low, high⟩)
  else ([replacement], none)

def continueChar (pending : Pending) (byte : UInt8) : List Char × Option Pending :=
  if pending.low ≤ byte ∧ byte ≤ pending.high then
    let code := pending.code * 0x40 + (byte.toNat - 0x80)
    if pending.owed ≤ 1 then ([Char.ofNat code], none)
    else ([], some ⟨code, pending.owed - 1, 0x80, 0xBF⟩)
  else
    let (finished, next) := startChar byte
    (replacement :: finished, next)

def readByte : Option Pending → UInt8 → List Char × Option Pending
  | none, byte => startChar byte
  | some pending, byte => continueChar pending byte

def decodeFrom : Option Pending → List UInt8 → List Char
  | none, [] => []
  | some _, [] => [replacement]
  | state, byte :: rest =>
    let (finished, next) := readByte state byte
    finished ++ decodeFrom next rest

def decode (bytes : List UInt8) : List Char :=
  decodeFrom none bytes

def decodeText (bytes : List UInt8) : String :=
  String.ofList (decode bytes)

end RowText.Utf8
