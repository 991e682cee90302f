import RowText.Span

/-!
Characters as the first byte of each declares them, without decoding.

Any byte sequence falls into characters: a byte that cannot start a character counts as one, and the
last character may be cut short by the end. `countChars` counts them over a sequence of chunks.
-/

namespace RowText.Utf8

def leadWidth (lead : UInt8) : Nat :=
  if lead < 0xC2 then 1
  else if lead < 0xE0 then 2
  else if lead < 0xF0 then 3
  else if lead < 0xF5 then 4
  else 1

def chars : List UInt8 → List (List UInt8)
  | [] => []
  | lead :: rest =>
    (lead :: rest.take (leadWidth lead - 1)) :: chars (rest.drop (leadWidth lead - 1))
termination_by bytes => bytes.length
decreasing_by simp only [List.length_drop, List.length_cons]; omega

def rangesFrom (offset : Nat) : List (List UInt8) → List (Nat × Nat)
  | [] => []
  | piece :: rest => (offset, offset + piece.length) :: rangesFrom (offset + piece.length) rest

def charRanges (bytes : List UInt8) : List (Nat × Nat) :=
  rangesFrom 0 (chars bytes)

/-- How many characters start in a chunk after its first `skip` bytes, and how many bytes of the
last one the next chunk owes. -/
def countChunk (skip : Nat) (chunk : List UInt8) : Nat × Nat :=
  match _ : chunk.drop skip with
  | [] => (0, skip - chunk.length)
  | lead :: rest =>
    let (count, owed) := countChunk (leadWidth lead - 1) rest
    (count + 1, owed)
termination_by chunk.length
decreasing_by
  have shorter := congrArg List.length ‹chunk.drop skip = lead :: rest›
  simp at shorter
  omega

def countCharsFrom (owed : Nat) : List (List UInt8) → Nat
  | [] => 0
  | chunk :: rest =>
    let (count, owed) := countChunk owed chunk
    count + countCharsFrom owed rest

def countChars (chunks : List (List UInt8)) : Nat :=
  countCharsFrom 0 chunks

end RowText.Utf8
