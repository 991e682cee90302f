import RowText.RowString.Basic

namespace RowText

def keyPad : UInt8 := 0x00

def Buffer.putChunks (b : Buffer) (position remaining : Nat) : List (List UInt8) → Written
  | [] => ⟨.ok (), b⟩
  | chunk :: rest =>
    if remaining = 0 then ⟨.ok (), b⟩
    else
      let chunk := chunk.take remaining
      (b.put position chunk).andThen fun b =>
        b.putChunks (position + chunk.length) (remaining - chunk.length) rest

/-- Write the key of a string: its first `width` bytes, and the pad behind a shorter string. The
segments of the string are asked for once the pad is written. -/
def Buffer.writeKey (b : Buffer) (offset width : Nat) : RowString.Reading Written := do
  let filled := b.fill offset width keyPad
  match filled.outcome with
  | .ok () =>
    return filled.buffer.putChunks offset width (← RowString.Reading.span).chunks
  | .error _ => return filled

def Buffer.putKey (b : Buffer) (s : RowString) (offset width : Nat) : Written :=
  (b.writeKey offset width).value s

theorem Buffer.putKey_eq_andThen (b : Buffer) (s : RowString) (offset width : Nat) :
    b.putKey s offset width =
      (b.fill offset width keyPad).andThen fun b => b.putChunks offset width s.span.chunks := by
  unfold putKey writeKey
  rcases b.fill offset width keyPad with ⟨_ | _, filled⟩ <;> rfl

def compareKeys (a b : List UInt8) : Ordering := compare a b

end RowText
