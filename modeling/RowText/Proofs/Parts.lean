import RowText.Proofs.Accesses
import RowText.Proofs.Calls
import RowText.Proofs.Windows

/-!
# Parts stay inside their string

An operation that yields parts of a string looks up ranges of its bytes first, and then cuts at them
(`RowString.Cutting.run_eq`). None of the ranges is reversed or ends behind the bytes
(`RowString.Cutting.pieces_inside`). So a part of a part, in any number of steps, holds a range of
the first string; a part of a view reads that range in the same segments, although their capacity is
not checked again (`RowString.parts_stay_inside`).
-/

namespace RowText

/-! ## Spans within spans -/

structure Span.Within (inner outer : Span) : Prop where
  segments : inner.segments = outer.segments
  start : outer.offset ≤ inner.offset
  stop : inner.offset + inner.length ≤ outer.offset + outer.length

namespace Span.Within

variable {inner outer : Span}

theorem refl (s : Span) : s.Within s := ⟨rfl, Nat.le_refl _, Nat.le_refl _⟩

theorem cut (within : inner.Within outer) {start stop : Nat} (ordered : start ≤ stop)
    (inside : stop ≤ inner.length) :
    Within ⟨inner.segments, inner.offset + start, stop - start⟩ outer where
  segments := within.segments
  start := Nat.le_add_right_of_le within.start
  stop := by
    have last := within.stop
    dsimp only
    omega

theorem content (within : inner.Within outer) :
    inner.content = byteSlice outer.content (inner.offset - outer.offset)
      (inner.offset - outer.offset + inner.length) := by
  obtain ⟨same, first, last⟩ := within
  have bound : inner.offset - outer.offset + inner.length ≤ outer.length := by omega
  unfold Span.content
  rw [byteSlice_byteSlice bound, same, Nat.add_sub_cancel' first, Nat.add_sub_cancel_left]

end Span.Within

namespace RowString

variable {s t part : RowString}

/-! ## Ranges that are looked up -/

namespace Cutting

def run (s : RowString) : Cutting → Checked (List RowString)
  | substring start stop => .ok [s.substring start stop]
  | substringSql position length => do return (← s.substringSql position length).toList
  | trimBlank leading trailing => .ok [s.trimBlank leading trailing]
  | trimWith leading trailing set => .ok [s.trimWith leading trailing set]
  | split separator => .ok (s.split separator)
  | keyValue entryEnd keyEnd key => .ok (s.keyValue entryEnd keyEnd key).toList

def Narrow : Cutting → Prop
  | substringSql position length =>
    IntWidth.w32.holds position = true ∧ ∀ given ∈ length, IntWidth.w32.holds given = true
  | _ => True

end Cutting

theorem window_eq (s : RowString) (position : Int) (length : Option Nat) :
    s.window position length = (s.windowRange? position length).map s.piece := by
  rw [window]
  cases s.windowRange? position length <;> rfl

theorem Cutting.run_eq (cutting : Cutting) (s : RowString) :
    cutting.run s = (cutting.pieces s).map (List.map s.piece) := by
  cases cutting with
  | substringSql position length =>
      cases length with
      | none =>
          rw [run, RowString.substringSql, window_eq]
          change _ = Except.map _ (do return [← s.windowRange? position none])
          cases s.windowRange? position none <;> rfl
      | some length =>
          rw [run, RowString.substringSql, pieces, Option.any_some, Option.map_some, window_eq]
          simp only [decide_eq_true_eq]
          split
          · rfl
          · cases s.windowRange? position (some length.toNat) <;> rfl
  | split separator =>
      rw [run, pieces, Except.map, List.map_map]
      rfl
  | keyValue entryEnd keyEnd key =>
      rw [run, pieces, RowString.keyValue]
      cases key.bind (s.keyRange? entryEnd keyEnd) <;> rfl
  | _ => rfl

theorem Cutting.pieces_inside {cutting : Cutting} {pieces : List (Option (Nat × Nat))}
    (looked : cutting.pieces s = .ok pieces) {range : Nat × Nat} (member : some range ∈ pieces) :
    range.1 ≤ range.2 ∧ range.2 ≤ s.content.length := by
  cases cutting with
  | substring start stop =>
      cases looked
      obtain ⟨ordered, -, last⟩ := substringRange?_cut (List.mem_singleton.mp member).symm
      exact ⟨ordered, last.le⟩
  | substringSql position length =>
      unfold Cutting.pieces at looked
      dsimp only at looked
      split at looked
      next =>
        cases looked
        cases member
      next =>
        obtain ⟨found, located, done⟩ := Checked.bind_eq_ok.mp looked
        cases done
        rw [← List.mem_singleton.mp member] at located
        obtain ⟨ordered, -, last⟩ := windowRange?_cut located
        exact ⟨ordered, last.le⟩
  | trimBlank leading trailing =>
      cases looked
      obtain rfl := Option.some.inj (List.mem_singleton.mp member)
      obtain ⟨ordered, -, last⟩ := blankRange_cut s leading trailing
      exact ⟨ordered, last.le⟩
  | trimWith leading trailing set =>
      cases looked
      have found := (List.mem_singleton.mp member).symm
      rw [bytes_eq] at found
      obtain ⟨ordered, -, last⟩ := trimmedBytes?_cut found
      exact ⟨ordered, last.le⟩
  | split separator =>
      cases looked
      obtain ⟨_, inRanges, ⟨⟩⟩ := List.mem_map.mp member
      rw [bytes_eq] at inRanges
      obtain ⟨ordered, -, last⟩ := tokenRanges_cut inRanges
      exact ⟨ordered, BetweenTokens.le last⟩
  | keyValue entryEnd keyEnd key =>
      cases looked
      obtain ⟨_, inRange, ⟨⟩⟩ := List.mem_map.mp member
      obtain ⟨key, -, found⟩ := Option.bind_eq_some_iff.mp (Option.mem_toList.mp inRange)
      obtain ⟨ordered, -, last⟩ := keyRange?_cut found
      exact ⟨ordered, last.le⟩

/-! ## No part is refused -/

theorem slice_inside {segment : Segment} (short : segment.size ≤ Word.maxAllocation)
    {start stop : Nat} (ordered : start ≤ stop) (inside : stop ≤ segment.size) :
    discard (segment.slice (.included start) (.excluded stop)) = .ok () := by
  rw [Segment.slice_eq short, if_pos ⟨ordered, inside⟩]
  rfl

theorem checkSlice_of_inside (wellFormed : s.WellFormed) (short : s.length ≤ Word.maxAllocation)
    {start stop : Nat} (ordered : start ≤ stop) (inside : stop ≤ s.length) :
    s.checkSlice start stop = .ok () := by
  unfold checkSlice
  rw [if_neg (by omega)]
  split
  · rfl
  · cases s with
    | owned segment decoded => exact slice_inside short ordered inside
    | view span decoded => rfl
    | text value encoded =>
        have size : (encodedSegment value encoded).size = (text value encoded).length :=
          congrArg List.length (encodedSegment_bytes wellFormed)
        rw [← size] at short inside
        exact slice_inside short ordered inside

theorem Kept.piece (kept : Kept s t) (range : Option (Nat × Nat)) :
    Kept (s.piece range) (t.piece range) := by
  rcases kept with rfl | rfl
  · exact kept_refl _
  · cases range with
    | none => exact kept_refl _
    | some range =>
        rw [RowString.piece, RowString.piece, sliceBytes_eq, sliceBytes_eq]
        cases s with
        | text value encoded =>
            change Kept _ (if range.1 = range.2 then empty
              else if range.1 = 0 ∧ range.2 = (text value encoded).length then _ else _)
            split
            · exact kept_refl _
            split
            · exact kept_encoded _
            · exact kept_refl _
        | _ => exact kept_refl _

theorem run_piece (wellFormed : s.WellFormed) (short : s.length ≤ Word.maxAllocation)
    (range : Option (Nat × Nat)) (inside : ∀ pair ∈ range, pair.1 ≤ pair.2 ∧ pair.2 ≤ s.length) :
    ∃ after, (Call.piece range).run.run s = (.ok (s.piece range), after) ∧ Kept s after := by
  cases range with
  | none => exact ⟨s, rfl, kept_refl s⟩
  | some pair =>
      obtain ⟨ordered, within⟩ := inside pair rfl
      refine ⟨_, ?_, kept_slice s pair.1 pair.2⟩
      change (Call.slice pair.1 pair.2).run.run s = _
      rw [run_slice, checkSlice_of_inside wellFormed short ordered within]
      rfl

theorem run_pieces (wellFormed : s.WellFormed) (short : s.length ≤ Word.maxAllocation)
    {ranges : List (Option (Nat × Nat))}
    (inside : ∀ pair, some pair ∈ ranges → pair.1 ≤ pair.2 ∧ pair.2 ≤ s.length)
    (kept : Kept s t) :
    ∃ parts, ((ranges.mapM Call.piece).run.run t).1 = .ok parts ∧
      List.Forall₂ Kept (ranges.map s.piece) parts := by
  -- A cut may leave the text encoded, so the induction is over every string that is kept.
  induction ranges generalizing t with
  | nil => exact ⟨[], rfl, .nil⟩
  | cons range rest ih =>
      have lengths : t.length = s.length := by
        rw [length_eq (kept.wellFormed wellFormed), length_eq wellFormed, kept.content]
      obtain ⟨after, ran, later⟩ := run_piece (kept.wellFormed wellFormed)
        (lengths ▸ short) range fun pair here => by
          rw [lengths]
          exact inside pair (List.mem_cons.mpr (Or.inl (Option.mem_def.mp here).symm))
      obtain ⟨parts, done, each⟩ :=
        ih (fun pair member => inside pair (List.mem_cons_of_mem _ member)) (kept.trans later)
      refine ⟨t.piece range :: parts, ?_, .cons (kept.piece range) each⟩
      rw [List.mapM_cons, run_bind, ran]
      dsimp only
      rw [run_bind]
      rcases others : (rest.mapM Call.piece).run.run after with ⟨_ | _, _⟩
      all_goals
        rw [others] at done
        cases done
      rfl

theorem Cutting.run_returns {cutting : Cutting} (narrow : cutting.Narrow)
    (short : s.content.length < 2 ^ 62) : ∃ parts, cutting.run s = .ok parts := by
  cases cutting with
  | substringSql position length =>
      have few : s.numChars < 2 ^ 62 := Nat.lt_of_le_of_lt (numChars_le s) short
      obtain ⟨named, limited⟩ := narrow
      rw [run_eq, pieces]
      split
      next => exact ⟨_, rfl⟩
      next positive =>
        have fits : ∀ given ∈ length.map Int.toNat, IntWidth.w32.holds (given : Int) = true := by
          intro given member
          obtain ⟨whole, present, rfl⟩ := Option.map_eq_some_iff.mp member
          rw [present, Option.any_some, decide_eq_true_eq, Int.not_lt] at positive
          rw [Int.toNat_of_nonneg positive]
          exact limited whole present
        have found : ∃ range, s.windowRange? position (length.map Int.toNat) = .ok range := by
          unfold windowRange?
          rw [sqlWindow_eq few named fits]
          split <;> exact ⟨_, rfl⟩
        obtain ⟨range, found⟩ := found
        rw [found]
        exact ⟨_, rfl⟩
  | _ => exact ⟨_, rfl⟩

theorem Cutting.call_returns {cutting : Cutting} (narrow : cutting.Narrow)
    (wellFormed : s.WellFormed) (short : s.content.length < 2 ^ 62) :
    ∃ parts, cutting.run s = .ok parts ∧
      ∃ cut, cutting.call.outcome s = .ok cut ∧ List.Forall₂ Kept parts cut := by
  obtain ⟨parts, returned⟩ := run_returns narrow short
  refine ⟨parts, returned, ?_⟩
  rw [run_eq] at returned
  cases looked : cutting.pieces s with
  | error fault =>
      rw [looked] at returned
      cases returned
  | ok ranges =>
      rw [looked] at returned
      cases returned
      have length := length_eq wellFormed
      have allocated : s.length ≤ Word.maxAllocation := by
        unfold Word.maxAllocation
        omega
      obtain ⟨cut, done, each⟩ := run_pieces wellFormed allocated
        (fun pair member => length ▸ pieces_inside looked member) (kept_refl s)
      refine ⟨cut, ?_, each⟩
      change ((Call.checked (cutting.pieces s) >>= fun ranges =>
        ranges.mapM Call.piece).run.run s).1 = _
      rw [run_bind, looked]
      exact done

/-! ## Parts of parts -/

/-- The strings that are cut out of a string in any number of steps, each out of a part of the
step before. -/
inductive PartOf (s : RowString) : RowString → Prop
  | whole : PartOf s s
  | cut {t part : RowString} {parts : List RowString} (earlier : PartOf s t) (cutting : Cutting)
      (done : cutting.run t = .ok parts) (member : part ∈ parts) : PartOf s part

structure Inside (s part : RowString) : Prop where
  wellFormed : part.WellFormed
  range : ∃ start stop, start ≤ stop ∧ stop ≤ s.content.length ∧
    part.content = byteSlice s.content start stop
  view : ∀ span kept, s = .view span kept →
    part = empty ∨ ∃ inner kept, part = .view inner kept ∧ inner.Within span

theorem inside_refl (wellFormed : s.WellFormed) : Inside s s where
  wellFormed := wellFormed
  range := ⟨0, s.content.length, Nat.zero_le _, Nat.le_refl _, (byteSlice_zero_length _).symm⟩
  view := fun span kept viewed => Or.inr ⟨span, kept, viewed, Span.Within.refl span⟩

theorem Inside.sliceBytes (inside : Inside s t) {start stop : Nat} (ordered : start ≤ stop)
    (within : stop ≤ t.content.length) : Inside s (t.sliceBytes start stop) where
  wellFormed := sliceBytes_wellFormed inside.wellFormed ordered
    (within.trans_eq (length_eq inside.wellFormed).symm)
  range := by
    obtain ⟨first, last, outerOrdered, bound, content⟩ := inside.range
    rw [content, byteSlice_length bound] at within
    refine ⟨first + start, first + stop, Nat.add_le_add_left ordered first, by omega, ?_⟩
    rw [sliceBytes_content inside.wellFormed (by rwa [content, byteSlice_length bound]), content,
      byteSlice_within outerOrdered within]
  view := by
    intro span kept viewed
    rw [← length_eq inside.wellFormed] at within
    rw [RowString.sliceBytes_eq]
    by_cases nothing : start = stop
    · exact Or.inl (if_pos nothing)
    rcases inside.view span kept viewed with rfl | ⟨inner, innerKept, rfl, inSpan⟩
    · have none : stop = 0 := Nat.le_zero.mp within
      omega
    by_cases whole : start = 0 ∧ stop = length (.view inner innerKept)
    · rw [if_neg nothing, if_pos whole]
      exact Or.inr ⟨inner, innerKept, rfl, inSpan⟩
    · rw [if_neg nothing, if_neg whole]
      exact Or.inr ⟨_, none, rfl, inSpan.cut ordered within⟩

theorem Inside.piece (inside : Inside s t) {piece : Option (Nat × Nat)}
    (within : ∀ range ∈ piece, range.1 ≤ range.2 ∧ range.2 ≤ t.content.length) :
    Inside s (t.piece piece) := by
  cases piece with
  | none => exact inside.sliceBytes (Nat.le_refl 0) (Nat.zero_le _)
  | some range => exact inside.sliceBytes (within range rfl).1 (within range rfl).2

theorem Inside.run (inside : Inside s t) {cutting : Cutting} {parts : List RowString}
    (done : cutting.run t = .ok parts) (member : part ∈ parts) : Inside s part := by
  rw [Cutting.run_eq] at done
  cases looked : cutting.pieces t with
  | error fault =>
      rw [looked] at done
      cases done
  | ok pieces =>
      rw [looked] at done
      cases done
      obtain ⟨piece, inPieces, rfl⟩ := List.mem_map.mp member
      refine inside.piece fun range found => Cutting.pieces_inside looked ?_
      rwa [← Option.mem_def.mp found]

theorem inside_of_partOf (wellFormed : s.WellFormed) (cut : PartOf s part) : Inside s part := by
  induction cut with
  | whole => exact inside_refl wellFormed
  | cut earlier cutting done member ih => exact ih.run done member

/-- However parts are cut out of parts, each of them holds a range of the bytes of the string. A part
of a view is empty or reads that range in the same segments. Each operation on a part cuts at the
ranges that it has looked up, none of which leaves the part, so none of them is refused. -/
theorem parts_stay_inside (wellFormed : s.WellFormed) (cut : PartOf s part) :
    (∃ start stop, start ≤ stop ∧ stop ≤ s.length ∧
      part.content = byteSlice s.content start stop) ∧
    (∀ span kept, s = view span kept → part = empty ∨
      ∃ inner kept, part = view inner kept ∧ inner.Within span ∧
        part.content = byteSlice s.content (inner.offset - span.offset)
          (inner.offset - span.offset + inner.length)) ∧
    ∀ cutting : Cutting,
      cutting.run part = (cutting.pieces part).map (List.map part.piece) ∧
      (∀ pieces, cutting.pieces part = .ok pieces → ∀ start stop, some (start, stop) ∈ pieces →
        start ≤ stop ∧ stop ≤ part.length) ∧
      (cutting.Narrow → s.length < 2 ^ 62 → ∃ parts, cutting.run part = .ok parts ∧
        ∃ cut, cutting.call.outcome part = .ok cut ∧ List.Forall₂ Kept parts cut) := by
  obtain ⟨partWellFormed, range, viewed⟩ := inside_of_partOf wellFormed cut
  rw [length_eq wellFormed, length_eq partWellFormed]
  refine ⟨range, ?_, fun cutting => ⟨cutting.run_eq part, ?_, ?_⟩⟩
  · rintro span kept rfl
    refine (viewed span kept rfl).imp_right ?_
    rintro ⟨inner, innerKept, rfl, inSpan⟩
    exact ⟨inner, innerKept, rfl, inSpan, inSpan.content⟩
  · intro pieces looked start stop member
    exact Cutting.pieces_inside looked member
  · intro narrow short
    obtain ⟨start, stop, -, bound, content⟩ := range
    refine Cutting.call_returns narrow partWellFormed ?_
    rw [content, byteSlice_length bound]
    omega

def spacedEntries : RowString :=
  view ⟨[⟨[0x20, 0x61, 0x3D, 0x20]⟩, ⟨[]⟩, ⟨[0x31, 0x20, 0x3B, 0x62]⟩], 1, 7⟩ none

theorem parts_stay_inside_spacedEntries :
    let one : Span := ⟨spacedEntries.span.segments, 4, 1⟩
    spacedEntries.WellFormed ∧ PartOf spacedEntries (view one none) ∧
      one.Within spacedEntries.span ∧
      (view one none).content = byteSlice spacedEntries.content 3 4 := by
  intro one
  have wellFormed : spacedEntries.WellFormed := ⟨by simp, by decide, by simp⟩
  have found : spacedEntries.keyValue 0x3B 0x3D (some (ofBytes [0x61])) =
      some (view ⟨one.segments, 3, 3⟩ none) := by decide +kernel
  have stripped : (view ⟨one.segments, 3, 3⟩ none).trimBlank true true = view one none := by
    decide +kernel
  have value : PartOf spacedEntries (view ⟨one.segments, 3, 3⟩ none) :=
    .cut .whole (.keyValue 0x3B 0x3D (some (ofBytes [0x61])))
      (by rw [Cutting.run, found, Option.toList_some]) (List.mem_singleton.mpr rfl)
  have trimmed : PartOf spacedEntries (view one none) :=
    .cut value (.trimBlank true true) (by rw [Cutting.run, stripped]) (List.mem_singleton.mpr rfl)
  obtain ⟨-, viewed, -⟩ := parts_stay_inside wellFormed trimmed
  rcases viewed _ _ rfl with nothing | ⟨inner, kept, ⟨⟩, inSpan, content⟩
  · cases nothing
  · exact ⟨wellFormed, trimmed, inSpan, content⟩

end RowString

end RowText
