import RowText.RowString.Basic

namespace RowText

/-- A sequence of segments that strings share. One that can be named again has an identity, which no
other sequence has. -/
structure Sequence where
  segments : List Segment
  identity : Option Nat
deriving DecidableEq

structure Slot where
  current : RowString
  shared : Option Nat
deriving DecidableEq

namespace Slot

def new : Slot := ⟨RowString.empty, none⟩

def views (s : Slot) (sequence : Sequence) : Bool :=
  s.shared.isSome && s.shared == sequence.identity

/-- Point the slot at a range of a sequence, which drops the text of the string it held; a range that
is refused leaves the slot as it was. -/
def reset (s : Slot) (sequence : Sequence) (offset length : Nat) : Checked Unit × Slot :=
  let span : Span := ⟨sequence.segments, offset, length⟩
  match span.check with
  | .ok () => (.ok (), ⟨.view span none, sequence.identity⟩)
  | .error fault => (.error fault, s)

def take (s : Slot) : RowString × Slot := (s.current, new)

end Slot

end RowText
