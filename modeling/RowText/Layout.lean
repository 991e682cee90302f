import RowText.RowString.Basic

namespace RowText

inductive Layout
  | oneSegment
  | twoSegments (pad : Nat)
  | text
deriving DecidableEq

namespace Layout

def segmentWith (capacity offset : Nat) (data : List UInt8) : Checked Segment := do
  let written := (← Buffer.zeroed capacity).put offset data
  written.outcome
  return written.buffer.freeze

/-- The span of bytes laid out over two segments, `pad` bytes into the first. Both are half as large
as the bytes and the pad, or as large as what they have to hold. -/
def splitSpan (bytes : List UInt8) (pad : Nat) : Checked Span := do
  let some total := Word.add? bytes.length pad | throw (.overflow "add")
  let half := total / 2 + 1
  let firstSize := max half pad
  let firstLength := min (firstSize - pad) bytes.length
  let first ← segmentWith firstSize pad (bytes.take firstLength)
  let second ← segmentWith (max half (bytes.length - firstLength)) 0 (bytes.drop firstLength)
  return ⟨[first, second], pad, bytes.length⟩

def splitSegments (bytes : List UInt8) (pad : Nat) : Checked RowString := do
  RowString.ofSpan (← splitSpan bytes pad)

def build (layout : Layout) (value : String) : Checked RowString :=
  match layout with
  | oneSegment => .ok (RowString.ofBytes (Utf8.encodeText value))
  | twoSegments pad => splitSegments (Utf8.encodeText value) pad
  | text => .ok (RowString.ofText value)

def putAll (b : Buffer) (offset : Nat) : List (List UInt8) → Written
  | [] => ⟨.ok (), b⟩
  | value :: rest => (b.put offset value).andThen fun b => putAll b (offset + value.length) rest

def viewsFrom (segments : List Segment) (offset : Nat) :
    List (List UInt8) → Checked (List RowString)
  | [] => .ok []
  | value :: rest => do
    let first ← RowString.ofSpan ⟨segments, offset, value.length⟩
    return first :: (← viewsFrom segments (offset + value.length) rest)

def pack (values : List String) : Checked (List RowString) := do
  let values := values.map Utf8.encodeText
  let written := putAll (← Buffer.zeroed values.flatten.length) 0 values
  written.outcome
  viewsFrom [written.buffer.freeze] 0 values

end Layout

end RowText
