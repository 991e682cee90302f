import RowText.RowString.Search
import RowText.Number.Digits

namespace RowText

def rangesBetween (test : UInt8 → Bool) (start index : Nat) : List UInt8 → List (Nat × Nat)
  | [] => [(start, index)]
  | byte :: rest =>
    if test byte then (start, index) :: rangesBetween test (index + 1) (index + 1) rest
    else rangesBetween test start (index + 1) rest

def rangesBetweenWhole (first : UInt8) (others : List UInt8) (start : Nat) (bytes : List UInt8) :
    List (Nat × Nat) :=
  match _ : findBytes? (first :: others) bytes with
  | none => [(start, start + bytes.length)]
  | some found =>
    let next := found + (first :: others).length
    (start, start + found) :: rangesBetweenWhole first others (start + next) (bytes.drop next)
termination_by bytes.length
decreasing_by
  have bound := findBytes?_bound ‹findBytes? (first :: others) bytes = some found›
  simp at bound ⊢
  omega

def valueRange? (bytes key : List UInt8) (keyEnd : UInt8) (start stop : Nat) : Option (Nat × Nat) :=
  let entry := byteSlice bytes start stop
  match entry.findIdx? (· == keyEnd) with
  | none => none
  | some position =>
    if entry.take position == key then some (start + position + 1, stop) else none

namespace RowString

def tokenRanges (bytes : List UInt8) (separator : Option (List UInt8)) : List (Nat × Nat) :=
  if bytes.isEmpty then []
  else
    match separator with
    | none | some [] => rangesBetween isAsciiSpace 0 0 bytes
    | some (first :: others) => rangesBetweenWhole first others 0 bytes

/-- The tokens between the occurrences of the whole separator, the empty ones included; without a
separator, those between the white space bytes. The empty string has no token. -/
def split (s : RowString) (separator : Option RowString) : List RowString :=
  (tokenRanges s.bytes (separator.map bytes)).map fun (start, stop) => s.sliceBytes start stop

def keyRange? (s : RowString) (entryEnd keyEnd : UInt8) (key : RowString) : Option (Nat × Nat) :=
  if key.isEmpty then none
  else
    (rangesBetween (· == entryEnd) 0 0 s.bytes).findSome? fun (start, stop) =>
      valueRange? s.bytes key.bytes keyEnd start stop

def keyValue (s : RowString) (entryEnd keyEnd : UInt8) (key : Option RowString) :
    Option RowString :=
  (key.bind (s.keyRange? entryEnd keyEnd)).map fun (start, stop) => s.sliceBytes start stop

end RowString

end RowText
