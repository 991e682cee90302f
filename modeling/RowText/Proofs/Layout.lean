import RowText.Proofs.WellFormed
import RowText.Proofs.Writes

namespace RowText

theorem overwrite_replicate {capacity offset : Nat} {data : List UInt8}
    (within : offset + data.length ≤ capacity) :
    overwrite (List.replicate capacity 0) offset data =
      List.replicate offset 0 ++ (data ++ List.replicate (capacity - (offset + data.length)) 0) := by
  rw [overwrite, List.take_replicate, List.drop_replicate, Nat.min_eq_left (by omega),
    List.append_assoc]

namespace Layout

def padded (capacity offset : Nat) (data : List UInt8) : Segment :=
  ⟨List.replicate offset 0 ++ (data ++ List.replicate (capacity - (offset + data.length)) 0)⟩

@[simp] theorem padded_size {capacity offset : Nat} {data : List UInt8}
    (within : offset + data.length ≤ capacity) : (padded capacity offset data).size = capacity := by
  simp only [padded, Segment.size, List.length_append, List.length_replicate]
  omega

theorem segmentWith_eq {capacity offset : Nat} {data : List UInt8}
    (small : capacity ≤ Word.maxAllocation) (within : offset + data.length ≤ capacity) :
    segmentWith capacity offset data = .ok (padded capacity offset data) := by
  have zeroed : Buffer.zeroed capacity = .ok ⟨List.replicate capacity 0⟩ :=
    Buffer.zeroed_eq_ok_iff.mpr ⟨small, rfl⟩
  have size : (Buffer.mk (List.replicate capacity 0)).size = capacity := List.length_replicate
  have isWord : offset + data.length < Word.limit :=
    Nat.lt_of_le_of_lt (within.trans small) (by decide)
  refine Checked.bind_eq_ok.mpr ⟨_, zeroed, ?_⟩
  rw [Buffer.put_eq isWord (within.trans_eq size.symm), overwrite_replicate within]
  rfl

theorem padded_content {bytes front rest : List UInt8} (joined : front ++ rest = bytes)
    {capacity size pad : Nat} (ends : pad + front.length = capacity ∨ rest = []) :
    (Span.mk [padded capacity pad front, padded size 0 rest] pad bytes.length).content = bytes := by
  have placed : [padded capacity pad front, padded size 0 rest].flatMap Segment.bytes =
      List.replicate pad 0 ++ (front ++ (List.replicate (capacity - (pad + front.length)) 0 ++
        (rest ++ List.replicate (size - (0 + rest.length)) 0))) := by
    simp [padded]
  rw [Span.content_eq, placed, List.drop_left' List.length_replicate, ← joined]
  rcases ends with rfl | rfl
  · rw [Nat.sub_self, List.replicate_zero, List.nil_append, ← List.append_assoc, List.take_left]
  · rw [List.append_nil, List.take_left]

def firstSize (length pad : Nat) : Nat := max ((length + pad) / 2 + 1) pad

def firstLength (length pad : Nat) : Nat := min (firstSize length pad - pad) length

def secondSize (length pad : Nat) : Nat :=
  max ((length + pad) / 2 + 1) (length - firstLength length pad)

theorem firstLength_cases (length pad : Nat) :
    pad + firstLength length pad = firstSize length pad ∨
      firstLength length pad = length ∧ pad + length ≤ firstSize length pad := by
  unfold firstLength firstSize
  omega

theorem first_full {length : Nat} (two : 2 ≤ length) (pad : Nat) :
    pad + firstLength length pad = firstSize length pad := by
  unfold firstLength firstSize
  omega

theorem sizes_small {length pad : Nat} (short : length + pad < 2 ^ 63) :
    firstSize length pad ≤ Word.maxAllocation ∧ secondSize length pad ≤ Word.maxAllocation := by
  unfold secondSize firstSize Word.maxAllocation
  omega

def halves (bytes : List UInt8) (pad : Nat) : Span :=
  ⟨[padded (firstSize bytes.length pad) pad (bytes.take (firstLength bytes.length pad)),
    padded (secondSize bytes.length pad) 0 (bytes.drop (firstLength bytes.length pad))],
    pad, bytes.length⟩

theorem take_firstLength (bytes : List UInt8) (pad : Nat) :
    (bytes.take (firstLength bytes.length pad)).length = firstLength bytes.length pad :=
  List.length_take_of_le (Nat.min_le_right _ _)

variable {bytes : List UInt8} {pad : Nat}

theorem first_within (bytes : List UInt8) (pad : Nat) :
    pad + (bytes.take (firstLength bytes.length pad)).length ≤ firstSize bytes.length pad := by
  have ends := firstLength_cases bytes.length pad
  rw [take_firstLength]
  omega

theorem second_within (bytes : List UInt8) (pad : Nat) :
    0 + (bytes.drop (firstLength bytes.length pad)).length ≤ secondSize bytes.length pad := by
  rw [Nat.zero_add, List.length_drop]
  exact Nat.le_max_right _ _

theorem splitSpan_eq (short : bytes.length + pad < 2 ^ 63) :
    splitSpan bytes pad = .ok (halves bytes pad) := by
  obtain ⟨firstSmall, secondSmall⟩ := sizes_small short
  have isWord : bytes.length + pad < Word.limit := Nat.lt_trans short (by decide)
  unfold splitSpan
  rw [Word.add?, if_pos isWord]
  exact Checked.bind_eq_ok.mpr ⟨_, segmentWith_eq firstSmall (first_within bytes pad),
    Checked.bind_eq_ok.mpr ⟨_, segmentWith_eq secondSmall (second_within bytes pad), rfl⟩⟩

@[simp] theorem halves_content (bytes : List UInt8) (pad : Nat) :
    (halves bytes pad).content = bytes := by
  refine padded_content (List.take_append_drop _ _) ?_
  rcases firstLength_cases bytes.length pad with full | ⟨all, -⟩
  · exact Or.inl (by rw [take_firstLength, full])
  · exact Or.inr (by rw [all, List.drop_length])

theorem halves_check (short : bytes.length + pad < 2 ^ 63) : (halves bytes pad).check = .ok () := by
  have room : pad + bytes.length ≤ totalSize (halves bytes pad).segments := by
    have front := first_within bytes pad
    have back := second_within bytes pad
    rw [take_firstLength] at front
    rw [List.length_drop] at back
    simp only [halves, totalSize, padded_size (first_within bytes pad),
      padded_size (second_within bytes pad)]
    omega
  have isWord : pad + bytes.length < Word.limit :=
    Nat.lt_trans (Nat.add_comm _ _ ▸ short) (by decide)
  exact RowString.check_eq_ok_iff.mpr ⟨List.cons_ne_nil _ _, isWord, room⟩

theorem splitSegments_eq (short : bytes.length + pad < 2 ^ 63) :
    splitSegments bytes pad = .ok (.view (halves bytes pad) none) :=
  Checked.bind_eq_ok.mpr ⟨_, splitSpan_eq short,
    RowString.ofSpan_eq_ok_iff.mpr ⟨halves_check short, rfl⟩⟩

end Layout

namespace Span

inductive Consecutive : (start stop : Nat) → List Span → Prop
  | done (place : Nat) : Consecutive place place []
  | next {span : Span} {rest : List Span} {stop : Nat}
      (later : Consecutive (span.offset + span.length) stop rest) :
      Consecutive span.offset stop (span :: rest)

def Covers (s : Span) (index : Nat) : Prop := s.offset ≤ index ∧ index < s.offset + s.length

theorem Consecutive.start_le {start stop : Nat} {spans : List Span}
    (consecutive : Consecutive start stop spans) {span : Span} (member : span ∈ spans) :
    start ≤ span.offset := by
  induction consecutive with
  | done => cases member
  | next later ih =>
      rcases List.mem_cons.mp member with rfl | behind
      · exact Nat.le_refl _
      · exact (Nat.le_add_right _ _).trans (ih behind)

theorem Consecutive.existsUnique {start stop : Nat} {spans : List Span}
    (consecutive : Consecutive start stop spans) {index : Nat} (behind : start ≤ index)
    (before : index < stop) : ∃! i : Nat, ∃ span : Span, spans[i]? = some span ∧ span.Covers index := by
  induction consecutive with
  | done place => omega
  | @next span rest stop later ih =>
      by_cases here : index < span.offset + span.length
      · refine ⟨0, ⟨span, rfl, behind, here⟩, ?_⟩
        rintro i ⟨other, found, covers⟩
        cases i with
        | zero => rfl
        | succ i =>
            -- A later span starts behind the index.
            have sooner := later.start_le (List.mem_of_getElem? found)
            have inOther := covers.1
            omega
      · obtain ⟨i, covered, unique⟩ := ih (Nat.le_of_not_lt here) before
        refine ⟨i + 1, covered, ?_⟩
        rintro j ⟨other, found, covers⟩
        cases j with
        | zero =>
            cases found
            exact absurd covers.2 here
        | succ j => rw [unique j ⟨other, found, covers⟩]

end Span

namespace Layout

theorem putAll_eq (values : List (List UInt8)) {b : Buffer} {offset : Nat}
    (isWord : offset + values.flatten.length < Word.limit)
    (within : offset + values.flatten.length ≤ b.size) :
    putAll b offset values = ⟨.ok (), ⟨overwrite b.bytes offset values.flatten⟩⟩ := by
  induction values generalizing b offset with
  | nil => rw [putAll, List.flatten_nil, overwrite_nil]
  | cons value rest ih =>
      rw [List.flatten_cons, List.length_append] at isWord within
      have room : offset + value.length ≤ b.bytes.length := by
        rw [Buffer.size] at within
        omega
      have size : (Buffer.mk (overwrite b.bytes offset value)).size = b.size :=
        overwrite_length room
      have later := @ih ⟨overwrite b.bytes offset value⟩ (offset + value.length) (by omega)
        (by omega)
      rw [overwrite_overwrite (by omega)] at later
      rw [putAll, Buffer.put_eq (by omega) room, List.flatten_cons]
      exact later

def spansFrom (segments : List Segment) (offset : Nat) : List (List UInt8) → List Span
  | [] => []
  | value :: rest => ⟨segments, offset, value.length⟩ ::
      spansFrom segments (offset + value.length) rest

theorem viewsFrom_eq {segments : List Segment} (nonempty : segments ≠ [])
    (values : List (List UInt8)) {offset : Nat}
    (isWord : offset + values.flatten.length < Word.limit)
    (within : offset + values.flatten.length ≤ totalSize segments) :
    viewsFrom segments offset values =
      .ok ((spansFrom segments offset values).map (RowString.view · none)) := by
  induction values generalizing offset with
  | nil => rfl
  | cons value rest ih =>
      rw [List.flatten_cons, List.length_append] at isWord within
      have fits : (Span.mk segments offset value.length).check = .ok () :=
        RowString.check_eq_ok_iff.mpr ⟨nonempty, by dsimp only; omega, by dsimp only; omega⟩
      have first := RowString.ofSpan_eq_ok_iff.mpr ⟨fits, rfl⟩
      have later := @ih (offset + value.length) (by omega) (by omega)
      exact Checked.bind_eq_ok.mpr ⟨_, first, Checked.bind_eq_ok.mpr ⟨_, later, rfl⟩⟩

theorem spansFrom_segments {segments : List Segment} {offset : Nat} {values : List (List UInt8)}
    {span : Span} (member : span ∈ spansFrom segments offset values) : span.segments = segments := by
  induction values generalizing offset with
  | nil => cases member
  | cons value rest ih =>
      rcases List.mem_cons.mp member with rfl | behind
      · rfl
      · exact ih behind

theorem spansFrom_consecutive (segments : List Segment) (offset : Nat)
    (values : List (List UInt8)) :
    Span.Consecutive offset (offset + values.flatten.length) (spansFrom segments offset values) := by
  induction values generalizing offset with
  | nil => exact .done offset
  | cons value rest ih =>
      have later := ih (offset + value.length)
      rw [Nat.add_assoc, ← List.length_append, ← List.flatten_cons] at later
      exact @Span.Consecutive.next ⟨segments, offset, value.length⟩ _ _ later

theorem spansFrom_content {segments : List Segment} (front : List UInt8)
    {values : List (List UInt8)} (bytes : segments.flatMap Segment.bytes = front ++ values.flatten) :
    (spansFrom segments front.length values).map Span.content = values := by
  induction values generalizing front with
  | nil => rfl
  | cons value rest ih =>
      rw [List.flatten_cons] at bytes
      have first : (Span.mk segments front.length value.length).content = value := by
        rw [Span.content_eq, bytes, List.drop_left, List.take_left]
      have later := ih (front ++ value) (by rw [bytes, List.append_assoc])
      rw [List.length_append] at later
      rw [spansFrom, List.map_cons, first, later]

def packedSegment (values : List String) : Segment := ⟨(values.map Utf8.encodeText).flatten⟩

def packedSpans (values : List String) : List Span :=
  spansFrom [packedSegment values] 0 (values.map Utf8.encodeText)

theorem pack_eq {values : List String} (short : (packedSegment values).size < 2 ^ 63) :
    pack values = .ok ((packedSpans values).map (RowString.view · none)) := by
  have size : 0 + (values.map Utf8.encodeText).flatten.length = (packedSegment values).size :=
    Nat.zero_add _
  have isWord : 0 + (values.map Utf8.encodeText).flatten.length < Word.limit :=
    size ▸ Nat.lt_trans short (by decide)
  have zeroed : Buffer.zeroed (packedSegment values).size = _ :=
    Buffer.zeroed_eq_ok_iff.mpr ⟨Nat.le_of_lt_succ short, rfl⟩
  have put := @putAll_eq (values.map Utf8.encodeText)
    ⟨List.replicate (packedSegment values).size 0⟩ 0 isWord
    (by rw [size, Buffer.size, List.length_replicate])
  rw [overwrite_replicate (Nat.le_of_eq size), size, Nat.sub_self, List.replicate_zero,
    List.append_nil, List.nil_append] at put
  have viewed := viewsFrom_eq (List.cons_ne_nil (packedSegment values) [])
    (values.map Utf8.encodeText) isWord (Nat.le_of_eq size)
  refine Checked.bind_eq_ok.mpr ⟨_, zeroed, ?_⟩
  rw [put]
  exact viewed

theorem pack_refused {values : List String} (long : 2 ^ 63 ≤ (packedSegment values).size) :
    ∃ fault, pack values = .error fault := by
  refine ⟨.allocation, ?_⟩
  have refused : Buffer.zeroed (packedSegment values).size = .error .allocation := by
    rw [Buffer.zeroed, allocate, if_neg (Nat.not_le_of_lt (Nat.lt_of_lt_of_le (by decide) long))]
    rfl
  change (do let b ← Buffer.zeroed (packedSegment values).size; _) = _
  rw [refused]
  rfl

structure LaidOut (bytes : List UInt8) (pad : Nat) (first second : Segment) : Prop where
  made : splitSegments bytes pad = .ok (.view ⟨[first, second], pad, bytes.length⟩ none)
  content : (RowString.view ⟨[first, second], pad, bytes.length⟩ none).content = bytes
  placed : ∃ front rest, front ++ rest = bytes ∧ first = padded first.size pad front ∧
    second = padded second.size 0 rest ∧ (2 ≤ bytes.length → pad + front.length = first.size)

structure Packed (values : List String) (segment : Segment) (spans : List Span) : Prop where
  made : pack values = .ok (spans.map (RowString.view · none))
  shared : ∀ span ∈ spans, span.segments = [segment]
  content : (spans.map (RowString.view · none)).map RowString.content = values.map Utf8.encodeText
  texts : (spans.map (RowString.view · none)).map RowString.asText = values
  consecutive : Span.Consecutive 0 segment.size spans
  covered : ∀ index, index < segment.size →
    ∃! i : Nat, ∃ span : Span, spans[i]? = some span ∧ span.Covers index

theorem laidOut_halves (short : bytes.length + pad < 2 ^ 63) :
    ∃ first second, LaidOut bytes pad first second := by
  have joined := List.take_append_drop (firstLength bytes.length pad) bytes
  refine ⟨_, _, splitSegments_eq short, halves_content bytes pad, _, _, joined, ?_, ?_, ?_⟩
  · rw [padded_size (first_within bytes pad)]
  · rw [padded_size (second_within bytes pad)]
  · intro two
    rw [padded_size (first_within bytes pad), take_firstLength, first_full two]

theorem packed_spans {values : List String} (short : (packedSegment values).size < 2 ^ 63) :
    Packed values (packedSegment values) (packedSpans values) := by
  have content : (packedSpans values).map Span.content = values.map Utf8.encodeText :=
    spansFrom_content [] (by simp [packedSegment])
  have consecutive : Span.Consecutive 0 (packedSegment values).size (packedSpans values) := by
    have spanned := spansFrom_consecutive [packedSegment values] 0 (values.map Utf8.encodeText)
    rwa [Nat.zero_add] at spanned
  refine ⟨pack_eq short, fun span => spansFrom_segments, ?_, ?_, consecutive, ?_⟩
  · rw [List.map_map]
    exact content
  · have read : RowString.asText ∘ (RowString.view · none) = Utf8.decodeText ∘ Span.content :=
      funext fun span => congrArg Utf8.decodeText span.bytes_eq
    have restored : Utf8.decodeText ∘ Utf8.encodeText = id := funext Utf8.decodeText_encodeText
    rw [List.map_map, read, ← List.map_map, content, List.map_map, restored, List.map_id]
  · intro index inside
    exact consecutive.existsUnique (Nat.zero_le index) inside

end Layout

end RowText
