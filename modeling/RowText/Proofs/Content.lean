import RowText.RowString.Basic
import RowText.Proofs.Span
import RowText.Proofs.Utf8

namespace RowText.RowString

@[simp] theorem content_empty : empty.content = [] := rfl

@[simp] theorem content_ofBytes (bytes : List UInt8) : (ofBytes bytes).content = bytes := rfl

@[simp] theorem content_ofText (value : String) :
    (ofText value).content = Utf8.encodeText value := rfl

@[simp] theorem decoded_content (s : RowString) : s.decoded.content = s.content := by
  cases s <;> rfl

@[simp] theorem encoded_content (s : RowString) : s.encoded.content = s.content := by
  cases s <;> rfl

theorem contiguousBytes?_eq {s : RowString} {bytes : List UInt8}
    (inPlace : s.contiguousBytes? = some bytes) : bytes = s.content := by
  cases s with
  | owned segment decoded => exact (Option.some.inj inPlace).symm
  | view span decoded => exact Span.contiguous?_eq inPlace
  | text value encoded => exact (Option.some.inj inPlace).symm

theorem span_content_of_gathered {s : RowString} (gathered : s.contiguousBytes? = none) :
    s.span.content = s.content := by
  cases s with
  | owned segment decoded => cases gathered
  | view span decoded => rfl
  | text value encoded => cases gathered

@[simp] theorem bytes_eq (s : RowString) : s.bytes = s.content := by
  unfold bytes
  cases inPlace : s.contiguousBytes? with
  | some bytes => exact contiguousBytes?_eq inPlace
  | none =>
      change s.span.bytes = s.content
      rw [Span.bytes_eq, span_content_of_gathered inPlace]

theorem foldl_append (target : List UInt8) (chunks : List (List UInt8)) :
    chunks.foldl (· ++ ·) target = target ++ chunks.flatten := by
  induction chunks generalizing target with
  | nil => simp
  | cons chunk rest ih => rw [List.foldl_cons, ih, List.flatten_cons, List.append_assoc]

@[simp] theorem copyInto_eq (s : RowString) (target : List UInt8) :
    s.copyInto target = target ++ s.content := by
  unfold copyInto
  cases inPlace : s.contiguousBytes? with
  | some bytes => exact congrArg (target ++ ·) (contiguousBytes?_eq inPlace)
  | none =>
      change s.span.chunks.foldl (· ++ ·) target = target ++ s.content
      rw [foldl_append, Span.chunks_flatten, span_content_of_gathered inPlace]

variable {s : RowString}

theorem encodedSegment_bytes {value : String} {encoded : Option Segment}
    (kept : ∀ segment ∈ encoded, segment.bytes = Utf8.encodeText value) :
    (encodedSegment value encoded).bytes = Utf8.encodeText value := by
  cases encoded with
  | none => rfl
  | some segment => exact kept segment rfl

theorem span_spec (wellFormed : s.WellFormed) :
    s.span.content = s.content ∧
      s.span.offset + s.span.length ≤ totalSize s.span.segments := by
  cases s with
  | owned segment decoded =>
      refine ⟨?_, by simp [span, totalSize]⟩
      rw [Span.content_eq]
      simp [span, Segment.size, content]
  | view span decoded => exact ⟨rfl, wellFormed.2.1⟩
  | text value encoded =>
      refine ⟨?_, by simp [span, totalSize]⟩
      rw [Span.content_eq]
      simp [span, Segment.size, content, encodedSegment_bytes wellFormed]

theorem length_eq (wellFormed : s.WellFormed) : s.length = s.content.length := by
  cases s with
  | owned segment decoded => rfl
  | view span decoded => exact (Span.content_length wellFormed.2.1).symm
  | text value encoded => rfl

theorem isEmpty_eq (wellFormed : s.WellFormed) : s.isEmpty = s.content.isEmpty := by
  rw [isEmpty, length_eq wellFormed]
  cases s.content <;> rfl

theorem byteAt_eq (wellFormed : s.WellFormed) (index : Nat) :
    s.byteAt index =
      match s.content[index]? with
      | some byte => .ok byte
      | none => .error (.outOfBounds index s.content.length) := by
  rw [← length_eq wellFormed]
  cases s with
  | owned segment decoded =>
      rw [← (span_spec wellFormed).1, ← Span.byte?_eq]
      rfl
  | view span decoded =>
      rw [content, ← Span.byte?_eq]
      rfl
  | text value encoded => rfl

theorem asText_eq (wellFormed : s.WellFormed) : s.asText = Utf8.decodeText s.content := by
  cases s with
  | owned segment decoded =>
      cases decoded with
      | none => rfl
      | some value => exact wellFormed value rfl
  | view span decoded =>
      cases decoded with
      | none => rw [asText, Span.bytes_eq, content]
      | some value => exact wellFormed.2.2 value rfl
  | text value encoded => exact (Utf8.decodeText_encodeText value).symm

theorem sliceBytes_content (wellFormed : s.WellFormed) {start stop : Nat}
    (within : stop ≤ s.content.length) :
    (s.sliceBytes start stop).content = byteSlice s.content start stop := by
  rw [sliceBytes_eq]
  by_cases nothing : start = stop
  · rw [if_pos nothing, byteSlice_eq_nil (by omega), content_empty]
  by_cases whole : start = 0 ∧ stop = s.length
  · rw [if_neg nothing, if_pos whole, whole.1, whole.2, length_eq wellFormed,
      byteSlice_zero_length]
  · rw [if_neg nothing, if_neg whole]
    cases s with
    | owned segment decoded => rfl
    | view span decoded =>
        rw [← length_eq wellFormed] at within
        exact (byteSlice_byteSlice within).symm
    | text value encoded =>
        change byteSlice (encodedSegment value encoded).bytes start stop = _
        rw [encodedSegment_bytes wellFormed, content]

def straddling : RowString :=
  view ⟨[⟨[0x20, 0x31]⟩, ⟨[]⟩, ⟨[0x2E, 0x35, 0x20]⟩], 1, 3⟩ none

theorem straddling_wellFormed : straddling.WellFormed :=
  ⟨by simp, by decide, by simp⟩

theorem straddling_content : straddling.content = [0x31, 0x2E, 0x35] := rfl

theorem ofBytes_wellFormed (bytes : List UInt8) : (ofBytes bytes).WellFormed := by
  simp [ofBytes, ofSegment, WellFormed]

theorem ofText_wellFormed (value : String) : (ofText value).WellFormed := by
  simp [ofText, WellFormed]

end RowText.RowString
