import RowText.Utf8.Width
import RowText.Utf8.Decode
import RowText.Segment.Buffer

/-!
A string of a row store, in one of three physical forms, and the texts and bytes it keeps at hand.

`RowString.content` states which bytes a string holds, and what operations yield depends on it
alone. `RowString.WellFormed` states what holds of each string: a view lies within its segments, and
what is kept at hand belongs to the content.
-/

namespace RowText

/-- A string is held as its own segment, as a view of shared segments, or as a text. Bytes may keep
the text decoded from them, and a text may keep the segment it was encoded to. -/
inductive RowString
  | owned (segment : Segment) (decoded : Option String)
  | view (span : Span) (decoded : Option String)
  | text (text : String) (encoded : Option Segment)
deriving DecidableEq

namespace RowString

def empty : RowString := owned Segment.empty none

def ofSegment (segment : Segment) : RowString := owned segment none

def ofBytes (bytes : List UInt8) : RowString := ofSegment ⟨bytes⟩

def ofText (value : String) : RowString := text value none

def ofSpan (span : Span) : Checked RowString := do
  span.check
  return view span none

def blank (length : Nat) : Checked RowString := do
  return ofBytes (← allocate length 0x20)

def encodedSegment (value : String) (encoded : Option Segment) : Segment :=
  encoded.getD ⟨Utf8.encodeText value⟩

def content : RowString → List UInt8
  | owned segment _ => segment.bytes
  | view span _ => span.content
  | text value _ => Utf8.encodeText value

def length : RowString → Nat
  | owned segment _ => segment.size
  | view span _ => span.length
  | text value _ => (Utf8.encodeText value).length

def isEmpty (s : RowString) : Bool := s.length == 0

def span : RowString → Span
  | owned segment _ => ⟨[segment], 0, segment.size⟩
  | view span _ => span
  | text value encoded =>
    let segment := encodedSegment value encoded
    ⟨[segment], 0, segment.size⟩

def contiguousBytes? : RowString → Option (List UInt8)
  | owned segment _ => some segment.bytes
  | view span _ => span.contiguous?
  | text value _ => some (Utf8.encodeText value)

def bytes (s : RowString) : List UInt8 :=
  match s.contiguousBytes? with
  | some bytes => bytes
  | none => s.span.bytes

def byteAt (s : RowString) (index : Nat) : Checked UInt8 :=
  let byte :=
    match s with
    | text value _ => (Utf8.encodeText value)[index]?
    | _ => s.span.byte? index
  match byte with
  | some byte => .ok byte
  | none => .error (.outOfBounds index s.length)

def copyInto (s : RowString) (target : List UInt8) : List UInt8 :=
  match s.contiguousBytes? with
  | some bytes => target ++ bytes
  | none => s.span.chunks.foldl (· ++ ·) target

def deepCopy (s : RowString) : RowString := ofBytes s.bytes

def asText : RowString → String
  | text value _ => value
  | owned _ (some value) => value
  | view _ (some value) => value
  | owned segment none => Utf8.decodeText segment.bytes
  | view span none => Utf8.decodeText span.bytes

def isDecoded : RowString → Bool
  | owned _ decoded => decoded.isSome
  | view _ decoded => decoded.isSome
  | text _ _ => true

def decoded (s : RowString) : RowString :=
  match s with
  | owned segment _ => owned segment (some s.asText)
  | view span _ => view span (some s.asText)
  | text _ _ => s

def encoded : RowString → RowString
  | text value encoded => text value (some (encodedSegment value encoded))
  | s => s

/-- A computation on a string that may leave a text or a segment at hand: what it yields, and the
string after it. -/
abbrev Reading (α : Type) := StateM RowString α

namespace Reading

def value {α : Type} (reading : Reading α) (s : RowString) : α := (reading.run s).1

def after {α : Type} (reading : Reading α) (s : RowString) : RowString := (reading.run s).2

def bytes : Reading (List UInt8) := do return (← get).bytes

def text : Reading String := modifyGet fun s => (s.asText, s.decoded)

def span : Reading Span := modifyGet fun s => (s.span, s.encoded)

def slice (start stop : Nat) : Reading RowString := do
  let s ← get
  if start = stop then return empty
  else if start = 0 ∧ stop = s.length then return s
  else
    match s with
    | .owned segment _ => return ofSegment ⟨byteSlice segment.bytes start stop⟩
    | .view whole _ => return view ⟨whole.segments, whole.offset + start, stop - start⟩ none
    | .text value encoded =>
      modify RowString.encoded
      return ofSegment ⟨byteSlice (encodedSegment value encoded).bytes start stop⟩

end Reading

def sliceBytes (s : RowString) (start stop : Nat) : RowString := (Reading.slice start stop).value s

theorem sliceBytes_eq (s : RowString) (start stop : Nat) :
    s.sliceBytes start stop =
      if start = stop then empty
      else if start = 0 ∧ stop = s.length then s
      else
        match s with
        | owned segment _ => ofSegment ⟨byteSlice segment.bytes start stop⟩
        | view span _ => view ⟨span.segments, span.offset + start, stop - start⟩ none
        | text value encoded =>
          ofSegment ⟨byteSlice (encodedSegment value encoded).bytes start stop⟩ := by
  change ((if start = stop then _ else if start = 0 ∧ stop = s.length then _ else _ :
    Reading RowString) s).1 = _
  by_cases nothing : start = stop
  · rw [if_pos nothing, if_pos nothing]
    rfl
  by_cases whole : start = 0 ∧ stop = s.length
  · rw [if_neg nothing, if_neg nothing, if_pos whole, if_pos whole]
    rfl
  · rw [if_neg nothing, if_neg nothing, if_neg whole, if_neg whole]
    cases s <;> rfl

def piece (s : RowString) : Option (Nat × Nat) → RowString
  | some (start, stop) => s.sliceBytes start stop
  | none => empty

/-- Whether a range may be cut out. Its ends are asserted; the segment that a part is cut out of, by
itself, refuses a range beyond its bytes. -/
def checkSlice (s : RowString) (start stop : Nat) : Checked Unit :=
  if stop < start ∨ s.length < stop then .error (.promise "start <= end && end <= self.len()")
  else if start = stop ∨ start = 0 ∧ stop = s.length then .ok ()
  else
    match s with
    | owned segment _ => discard (segment.slice (.included start) (.excluded stop))
    | view _ _ => .ok ()
    | text value encoded =>
      discard ((encodedSegment value encoded).slice (.included start) (.excluded stop))

abbrev Call (α : Type) := ExceptT Fault Reading α

namespace Call

variable {α : Type}

def outcome (call : Call α) (s : RowString) : Checked α := call.run.value s

def after (call : Call α) (s : RowString) : RowString := call.run.after s

def checked (outcome : Checked α) : Call α := ExceptT.mk (pure outcome)

def slice (start stop : Nat) : Call RowString := do
  checked ((← get).checkSlice start stop)
  Reading.slice start stop

def piece : Option (Nat × Nat) → Call RowString
  | some (start, stop) => slice start stop
  | none => return empty

end Call

/-- A view lies within its segments, and what is kept at hand belongs to the content. -/
def WellFormed : RowString → Prop
  | owned segment decoded => ∀ value ∈ decoded, value = Utf8.decodeText segment.bytes
  | view span decoded =>
    span.segments ≠ [] ∧ span.offset + span.length ≤ totalSize span.segments ∧
      ∀ value ∈ decoded, value = Utf8.decodeText span.content
  | text value encoded => ∀ segment ∈ encoded, segment.bytes = Utf8.encodeText value

end RowString

end RowText
