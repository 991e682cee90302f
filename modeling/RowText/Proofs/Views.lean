import RowText.Proofs.Windows
import RowText.Proofs.Session.Decoding

namespace RowText

namespace Span

def contributions (start stop : Int) (base : Nat) : List Segment → List (List UInt8)
  | [] => []
  | segment :: rest =>
    ((segment.bytes.zipIdx base).filter fun (_, index) => start ≤ index ∧ index < stop).map
      Prod.fst :: contributions start stop (base + segment.size) rest

@[simp] theorem chunksFrom_zero (segments : List Segment) (offset : Nat) :
    chunksFrom segments offset 0 = [] := by
  cases segments <;> rfl

theorem chunksFrom_eq (segments : List Segment) {start stop : Int} {base offset remaining : Nat}
    (first : (start - base).toNat = offset) (last : (stop - base).toNat = offset + remaining) :
    chunksFrom segments offset remaining =
      (contributions start stop base segments).filter (· ≠ []) := by
  -- The cursor has `remaining` bytes left to take, from `offset` on in the next segment.
  induction segments generalizing base offset remaining with
  | nil => rfl
  | cons segment rest ih =>
      rw [contributions, zipIdx_within, first, last, List.drop_take, Nat.add_sub_cancel_left,
        List.filter_cons]
      have later : (start - (base + segment.size : Nat)).toNat = offset - segment.size := by omega
      by_cases done : remaining = 0
      · have next := @ih _ _ 0 later (by omega)
        rw [chunksFrom_zero] at next
        rw [done, chunksFrom_zero, List.take_zero, if_neg (by simp), next]
      by_cases past : segment.size ≤ offset
      · rw [chunksFrom, if_neg done, if_pos past, List.drop_eq_nil_of_le past, List.take_nil,
          if_neg (by simp)]
        exact ih later (by omega)
      · have some : (segment.bytes.drop offset).take remaining ≠ [] := by
          rw [Segment.size] at past
          simp only [ne_eq, List.take_eq_nil_iff, List.drop_eq_nil_iff]
          omega
        rw [chunksFrom, if_neg done, if_neg past, if_pos (decide_eq_true some)]
        dsimp only
        rw [Segment.size, byteSlice_min, ← Segment.size]
        exact congrArg _ (ih (by omega) (by omega))

theorem chunks_eq (s : Span) :
    s.chunks =
      (contributions s.offset (s.offset + s.length : Nat) 0 s.segments).filter (· ≠ []) :=
  chunksFrom_eq s.segments (by omega) (by omega)

theorem check_eq {s : Span} (isWord : totalSize s.segments < Word.limit) :
    s.check =
      if s.segments = [] then .error noSegment
      else if s.offset + s.length ≤ totalSize s.segments then .ok ()
      else .error (pastEnd s.offset s.length (totalSize s.segments)) := by
  rw [check, checkRange_eq isWord]
  cases s.segments <;> rfl

structure Refused (s : Span) (fault : Fault) : Prop where
  view : RowString.ofSpan s = .error fault
  decode : ∀ (session : Session) (sequence : SequenceSource),
    session.segmentsOf sequence = .ok s.segments →
      (Session.run (.string (.decode sequence s.offset s.length))).run.run session =
        (.error (.abandoned fault), session)

structure Reads (s : Span) (content : List UInt8) : Prop where
  view : RowString.ofSpan s = .ok (.view s none)
  length : content.length = s.length
  bytes : (RowString.view s none).bytes = content
  copyInto : ∀ target, (RowString.view s none).copyInto target = target ++ content
  byteAt : ∀ index (inside : index < content.length),
    (RowString.view s none).byteAt index = .ok content[index]
  byteAt_past : ∀ index, s.length ≤ index →
    (RowString.view s none).byteAt index = .error (.outOfBounds index s.length)
  chunks : s.chunks =
    (contributions s.offset (s.offset + s.length : Nat) 0 s.segments).filter (· ≠ [])
  chunks_flatten : s.chunks.flatten = content
  decode : ∀ (session : Session) (sequence : SequenceSource),
    session.segmentsOf sequence = .ok s.segments →
      (Session.run (.string (.decode sequence s.offset s.length))).run.run session =
        (.ok (.text (Utf8.decodeText content)), session)

theorem refused_of_check {s : Span} {fault : Fault} (refused : s.check = .error fault) :
    s.Refused fault where
  view := by
    rw [RowString.ofSpan, refused]
    rfl
  decode := by
    intro session sequence resolved
    rw [Session.run_decode, resolved]
    dsimp only
    rw [refused]

theorem reads_of_check {s : Span} (fits : s.check = .ok ()) : s.Reads s.content where
  view := RowString.ofSpan_eq_ok_iff.mpr ⟨fits, rfl⟩
  length := content_length (RowString.view_wellFormed fits).2.1
  bytes := RowString.bytes_eq _
  copyInto := RowString.copyInto_eq _
  byteAt := by
    intro index inside
    rw [RowString.byteAt_eq (RowString.view_wellFormed fits), RowString.content,
      List.getElem?_eq_getElem inside]
  byteAt_past := by
    intro index past
    have length := content_length (RowString.view_wellFormed fits).2.1
    rw [RowString.byteAt_eq (RowString.view_wellFormed fits), RowString.content,
      List.getElem?_eq_none (length.trans_le past), length]
  chunks := chunks_eq s
  chunks_flatten := s.chunks_flatten
  decode := by
    intro session sequence resolved
    rw [Session.run_decode, resolved]
    dsimp only
    rw [fits]

end Span

/-- A span is refused exactly if it has no segment or ends behind the last one, and is read as its
range of all segments otherwise. -/
theorem views_read_range {segments : List Segment} (isWord : totalSize segments < Word.limit)
    (offset length : Nat) :
    let s : Span := ⟨segments, offset, length⟩
    (segments = [] → s.Refused Span.noSegment) ∧
      (segments ≠ [] → totalSize segments < offset + length →
        s.Refused (pastEnd offset length (totalSize segments))) ∧
      (segments ≠ [] → offset + length ≤ totalSize segments →
        s.Reads (((segments.flatMap Segment.bytes).drop offset).take length)) := by
  intro s
  have checked := Span.check_eq (show totalSize s.segments < Word.limit from isWord)
  refine ⟨?_, ?_, ?_⟩
  · intro none
    exact Span.refused_of_check (checked.trans (if_pos none))
  · intro some past
    rw [if_neg some, if_neg (Nat.not_le_of_lt past)] at checked
    exact Span.refused_of_check checked
  · intro some within
    rw [if_neg some, if_pos within] at checked
    rw [← Span.content_eq s]
    exact Span.reads_of_check checked

theorem views_read_range_straddling :
    let segments : List Segment := [⟨[0x20, 0x31]⟩, ⟨[]⟩, ⟨[0x2E, 0x35, 0x20]⟩]
    totalSize segments < Word.limit ∧
      (Span.mk segments 1 3).Reads [0x31, 0x2E, 0x35] ∧
      (Span.mk segments 1 3).chunks = [[0x31], [0x2E, 0x35]] ∧
      (Span.mk segments 5 0).Reads [] ∧
      (Span.mk segments 0xFFFFFFFFFFFFFFFF 1).Refused (.outOfBounds 0xFFFFFFFFFFFFFFFF 5) ∧
      (Span.mk [] 0 0).Refused Span.noSegment := by
  intro segments
  have isWord : totalSize segments < Word.limit := by decide
  have reads : (Span.mk segments 1 3).Reads [0x31, 0x2E, 0x35] :=
    (views_read_range isWord 1 3).2.2 nofun (by decide)
  refine ⟨isWord, reads, reads.chunks.trans (by decide), ?_, ?_, ?_⟩
  · exact (views_read_range isWord 5 0).2.2 nofun (by decide)
  · exact (views_read_range isWord 0xFFFFFFFFFFFFFFFF 1).2.1 nofun (by decide)
  · exact (views_read_range (by decide : totalSize [] < Word.limit) 0 0).1 rfl

end RowText
