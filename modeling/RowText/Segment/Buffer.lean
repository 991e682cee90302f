import RowText.Segment.Basic

namespace RowText

def overwrite (bytes : List UInt8) (offset : Nat) (data : List UInt8) : List UInt8 :=
  bytes.take offset ++ data ++ bytes.drop (offset + data.length)

def allocate (size : Nat) (value : UInt8) : Checked (List UInt8) :=
  if size ≤ Word.maxAllocation then .ok (List.replicate size value) else .error .allocation

structure Buffer where
  bytes : List UInt8
deriving DecidableEq

namespace Buffer

def zeroed (capacity : Nat) : Checked Buffer := do
  return ⟨← allocate capacity 0⟩

def size (b : Buffer) : Nat := b.bytes.length

def get (b : Buffer) (index : Nat) : Checked UInt8 :=
  match b.bytes[index]? with
  | some byte => .ok byte
  | none => .error (.outOfBounds index b.size)

def compareTo (b : Buffer) (other : List UInt8) (offset otherOffset length : Nat) :
    Checked Ordering :=
  compareRanges b.bytes other offset otherOffset length

def freeze (b : Buffer) : Segment := ⟨b.bytes⟩

end Buffer

/-- Whether a write was completed, and the buffer that it leaves behind. -/
structure Written where
  outcome : Checked Unit
  buffer : Buffer

namespace Written

def andThen (first : Written) (next : Buffer → Written) : Written :=
  match first.outcome with
  | .ok () => next first.buffer
  | .error _ => first

end Written

namespace Buffer

def put (b : Buffer) (offset : Nat) (data : List UInt8) : Written :=
  match checkRange offset data.length b.size with
  | .ok () => ⟨.ok (), ⟨overwrite b.bytes offset data⟩⟩
  | .error fault => ⟨.error fault, b⟩

def putByte (b : Buffer) (index : Nat) (value : UInt8) : Written :=
  if index < b.size then
    ⟨.ok (), ⟨b.bytes.set index value⟩⟩
  else
    ⟨.error (.outOfBounds index b.size), b⟩

def fill (b : Buffer) (offset length : Nat) (value : UInt8) : Written :=
  match checkRange offset length b.size with
  | .ok () => ⟨.ok (), ⟨overwrite b.bytes offset (List.replicate length value)⟩⟩
  | .error fault => ⟨.error fault, b⟩

end Buffer

end RowText
