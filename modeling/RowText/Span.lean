import RowText.Segment.Basic

/-!
A span is a range of bytes laid out over a sequence of segments and read from one into the next.

`Span.content` states which bytes it denotes. `Span.chunks` walks them, one chunk for each segment
that contributes a byte, and `Span.compareTo` orders two spans by walking both.
-/

namespace RowText

def totalSize : List Segment → Nat
  | [] => 0
  | segment :: rest => segment.size + totalSize rest

structure Span where
  segments : List Segment
  offset : Nat
  length : Nat
deriving DecidableEq

namespace Span

def noSegment : Fault := .error (.invalidArgument "a string view requires at least one segment")

def check (s : Span) : Checked Unit :=
  if s.segments.isEmpty then .error noSegment
  else checkRange s.offset s.length (totalSize s.segments)

def content (s : Span) : List UInt8 :=
  byteSlice (s.segments.flatMap Segment.bytes) s.offset (s.offset + s.length)

def contiguous? (s : Span) : Option (List UInt8) :=
  if s.length = 0 then some []
  else
    match s.segments with
    | [] => none
    | first :: _ =>
      if s.offset + s.length ≤ first.size then
        some (byteSlice first.bytes s.offset (s.offset + s.length))
      else none

def chunksFrom : List Segment → (offset remaining : Nat) → List (List UInt8)
  | [], _, _ => []
  | segment :: rest, offset, remaining =>
    if remaining = 0 then []
    else if segment.size ≤ offset then chunksFrom rest (offset - segment.size) remaining
    else
      let taken := min (segment.size - offset) remaining
      byteSlice segment.bytes offset (offset + taken) :: chunksFrom rest 0 (remaining - taken)

def chunks (s : Span) : List (List UInt8) :=
  chunksFrom s.segments s.offset s.length

def bytes (s : Span) : List UInt8 :=
  match s.contiguous? with
  | some bytes => bytes
  | none => s.chunks.flatten

def byteInChunks? : List (List UInt8) → Nat → Option UInt8
  | [], _ => none
  | chunk :: rest, index =>
    if index < chunk.length then chunk[index]? else byteInChunks? rest (index - chunk.length)

def byte? (s : Span) (index : Nat) : Option UInt8 :=
  if s.length ≤ index then none else byteInChunks? s.chunks index

/-- The order at the first difference of two chunk sequences, each walked at its own rate; nothing
if one of them runs dry before that. -/
def firstDifference : List (List UInt8) → List (List UInt8) → Option Ordering
  | [], _ => none
  | [] :: lhs, rhs => firstDifference lhs rhs
  | (_ :: _) :: _, [] => none
  | (a :: as) :: lhs, [] :: rhs => firstDifference ((a :: as) :: lhs) rhs
  | (a :: as) :: lhs, (b :: bs) :: rhs =>
    match compare a b with
    | .eq => firstDifference (as :: lhs) (bs :: rhs)
    | order => some order
termination_by lhs rhs => lhs.length + lhs.flatten.length + rhs.length + rhs.flatten.length
decreasing_by
  all_goals
    simp only [List.flatten_cons, List.length_append, List.length_cons, List.length_nil]
    omega

def compareTo (lhs rhs : Span) : Ordering :=
  match lhs.contiguous?, rhs.contiguous? with
  | some a, some b => compare a b
  | _, _ => (firstDifference lhs.chunks rhs.chunks).getD (compare lhs.length rhs.length)

end Span

end RowText
