import RowText.Proofs.Slices

/-!
# Where operations cut

A part of a string is cut out of its bytes between two places. The places are an end of the bytes,
an end of a character, or a place next to a byte that is trimmed, to a delimiter or to a separator,
each by its operation.
-/

namespace RowText

def NextTo (test : UInt8 → Bool) (bytes : List UInt8) (place : Nat) : Prop :=
  place = 0 ∨ place = bytes.length ∨
    ∃ index byte, bytes[index]? = some byte ∧ test byte ∧ (place = index ∨ place = index + 1)

def NextToWhole (needle bytes : List UInt8) (place : Nat) : Prop :=
  place = 0 ∨ place = bytes.length ∨
    ∃ front behind, bytes = front ++ (needle ++ behind) ∧
      (place = front.length ∨ place = front.length + needle.length)

def BetweenChars (bytes : List UInt8) (place : Nat) : Prop :=
  ∃ count, place = ((Utf8.chars bytes).take count).flatten.length

theorem NextTo.le {test : UInt8 → Bool} {bytes : List UInt8} {place : Nat}
    (next : NextTo test bytes place) : place ≤ bytes.length := by
  rcases next with rfl | rfl | ⟨index, byte, found, -, side⟩
  · exact Nat.zero_le _
  · exact Nat.le_refl _
  · have inside := (List.getElem?_eq_some_iff.mp found).1
    omega

theorem NextTo.mono {test other : UInt8 → Bool} {bytes : List UInt8} {place : Nat}
    (weaker : ∀ byte, test byte → other byte) (next : NextTo test bytes place) :
    NextTo other bytes place :=
  next.imp_right (Or.imp_right fun ⟨index, byte, found, passes, side⟩ =>
    ⟨index, byte, found, weaker byte passes, side⟩)

theorem NextToWhole.le {needle bytes : List UInt8} {place : Nat}
    (next : NextToWhole needle bytes place) : place ≤ bytes.length := by
  rcases next with rfl | rfl | ⟨front, behind, rfl, side⟩
  · exact Nat.zero_le _
  · exact Nat.le_refl _
  · simp only [List.length_append]
    omega

theorem BetweenChars.le {bytes : List UInt8} {place : Nat} (between : BetweenChars bytes place) :
    place ≤ bytes.length := by
  obtain ⟨count, rfl⟩ := between
  have bound := Utf8.take_flatten_length_le (Utf8.chars bytes) count
  rwa [Utf8.chars_flatten] at bound

theorem leadingRun_getElem? {α : Type} {test : α → Bool} {xs : List α} {index : Nat}
    (inside : index < leadingRun test xs) : ∃ x, xs[index]? = some x ∧ test x := by
  have within : (xs.takeWhile test)[index]? = xs[index]? := by
    conv_rhs => rw [← List.takeWhile_append_dropWhile (p := test) (l := xs)]
    exact (List.getElem?_append_left inside).symm
  refine ⟨(xs.takeWhile test)[index], ?_, ?_⟩
  · rw [← within, List.getElem?_eq_getElem inside]
  · exact List.all_eq_true.mp List.all_takeWhile _ (List.getElem_mem inside)

theorem trimmedRange_cut (test : UInt8 → Bool) (leading trailing : Bool) (bytes : List UInt8) :
    NextTo test bytes (trimmedRange test leading trailing bytes).1 ∧
      NextTo test bytes (trimmedRange test leading trailing bytes).2 := by
  have front : NextTo test bytes (trimmedRange test leading trailing bytes).1 := by
    cases leading with
    | false => exact Or.inl rfl
    | true =>
        change NextTo test bytes (leadingRun test bytes)
        cases run : leadingRun test bytes with
        | zero => exact Or.inl rfl
        | succ before =>
            have inside : before < leadingRun test bytes := by omega
            obtain ⟨byte, found, passes⟩ := leadingRun_getElem? inside
            exact Or.inr (Or.inr ⟨before, byte, found, passes, Or.inr rfl⟩)
  refine ⟨front, ?_⟩
  cases trailing with
  | false => exact Or.inr (Or.inl rfl)
  | true =>
      let rest := bytes.drop (trimmedRange test leading true bytes).1
      change NextTo test bytes (bytes.length - leadingRun test rest.reverse)
      have room := leadingRun_le test rest.reverse
      rw [List.length_reverse, List.length_drop] at room
      cases run : leadingRun test rest.reverse with
      | zero => exact Or.inr (Or.inl rfl)
      | succ before =>
          have inside : before < leadingRun test rest.reverse := by omega
          obtain ⟨byte, found, passes⟩ := leadingRun_getElem? inside
          rw [List.getElem?_reverse (by rw [List.length_drop]; omega), List.length_drop,
            List.getElem?_drop] at found
          refine Or.inr (Or.inr ⟨_, byte, found, passes, Or.inl ?_⟩)
          omega

theorem rangesBetween_cut {test : UInt8 → Bool} {whole bytes : List UInt8} {start index : Nat}
    (rest : whole.drop index = bytes) (inside : index ≤ whole.length) (ordered : start ≤ index)
    (startCut : NextTo test whole start) {range : Nat × Nat}
    (member : range ∈ rangesBetween test start index bytes) :
    range.1 ≤ range.2 ∧ NextTo test whole range.1 ∧ NextTo test whole range.2 := by
  induction bytes generalizing start index with
  | nil =>
      rw [List.mem_singleton.mp member]
      have ended := List.drop_eq_nil_iff.mp rest
      exact ⟨ordered, startCut, Or.inr (Or.inl (Nat.le_antisymm inside ended))⟩
  | cons byte later ih =>
      have found : whole[index]? = some byte := by rw [← List.head?_drop, rest, List.head?_cons]
      have laterRest : whole.drop (index + 1) = later := by
        rw [← List.drop_drop, rest, List.drop_one, List.tail_cons]
      have laterInside := (List.getElem?_eq_some_iff.mp found).1
      unfold rangesBetween at member
      split at member
      next passes =>
        rcases List.mem_cons.mp member with rfl | member
        · exact ⟨ordered, startCut, Or.inr (Or.inr ⟨index, byte, found, passes, Or.inl rfl⟩)⟩
        · exact ih laterRest laterInside (Nat.le_refl _)
            (Or.inr (Or.inr ⟨index, byte, found, passes, Or.inr rfl⟩)) member
      next => exact ih laterRest laterInside (Nat.le_succ_of_le ordered) startCut member

theorem findBytes?_split {needle bytes : List UInt8} {offset : Nat}
    (found : findBytes? needle bytes = some offset) :
    ∃ behind, bytes = bytes.take offset ++ (needle ++ behind) := by
  induction bytes generalizing offset with
  | nil =>
      simp only [findBytes?, Option.ite_none_right_eq_some, List.isEmpty_iff] at found
      exact ⟨[], by simp [found.1]⟩
  | cons byte rest ih =>
      unfold findBytes? at found
      split at found
      next atFront =>
        obtain ⟨behind, joined⟩ := List.isPrefixOf_iff_prefix.mp atFront
        cases found
        exact ⟨behind, joined.symm⟩
      next =>
        obtain ⟨before, foundLater, rfl⟩ := Option.map_eq_some_iff.mp found
        obtain ⟨behind, joined⟩ := ih foundLater
        exact ⟨behind, by rw [List.take_succ_cons, List.cons_append, ← joined]⟩

theorem rangesBetweenWhole_cut {first : UInt8} {others whole bytes : List UInt8} {start : Nat}
    (rest : whole.drop start = bytes) (inside : start ≤ whole.length)
    (startCut : NextToWhole (first :: others) whole start) {range : Nat × Nat}
    (member : range ∈ rangesBetweenWhole first others start bytes) :
    range.1 ≤ range.2 ∧ NextToWhole (first :: others) whole range.1 ∧
      NextToWhole (first :: others) whole range.2 := by
  fun_induction rangesBetweenWhole first others start bytes with
  | case1 start bytes absent =>
      obtain rfl := List.mem_singleton.mp member
      have length := congrArg List.length rest
      rw [List.length_drop] at length
      exact ⟨Nat.le_add_right _ _, startCut, Or.inr (Or.inl (by dsimp only; omega))⟩
  | case2 start bytes found present next ih =>
      obtain ⟨behind, joined⟩ := findBytes?_split present
      have bound := findBytes?_bound present
      have front : (whole.take start ++ bytes.take found).length = start + found := by
        rw [List.length_append, List.length_take, List.length_take]
        omega
      have split : whole = whole.take start ++ bytes.take found ++ (first :: others ++ behind) := by
        rw [List.append_assoc, ← joined, ← rest, List.take_append_drop]
      rcases List.mem_cons.mp member with rfl | member
      · exact ⟨Nat.le_add_right _ _, startCut,
          Or.inr (Or.inr ⟨_, behind, split, Or.inl front.symm⟩)⟩
      · have length := congrArg List.length rest
        rw [List.length_drop] at length
        refine ih ?_ (by omega) (Or.inr (Or.inr ⟨_, behind, split, Or.inr ?_⟩)) member
        · rw [← rest, List.drop_drop]
        · rw [front, Nat.add_assoc]

theorem valueRange?_cut {bytes key : List UInt8} {keyEnd : UInt8} {start stop : Nat}
    (ordered : start ≤ stop) {range : Nat × Nat}
    (found : valueRange? bytes key keyEnd start stop = some range) :
    range.1 ≤ range.2 ∧ range.2 = stop ∧ NextTo (· == keyEnd) bytes range.1 := by
  unfold valueRange? at found
  dsimp only at found
  split at found
  next => cases found
  next position located =>
    split at found
    next =>
      cases found
      obtain ⟨inside, passes, -⟩ := List.findIdx?_eq_some_iff_getElem.mp located
      have room := inside
      rw [byteSlice, List.length_take] at room
      refine ⟨by dsimp only; omega, rfl, Or.inr (Or.inr ⟨start + position, _, ?_, passes, Or.inr rfl⟩)⟩
      rw [← List.getElem?_drop, ← List.getElem?_take_of_lt (by omega : position < stop - start)]
      exact List.getElem?_eq_getElem inside
    next => cases found

theorem take_chars_length_mono (bytes : List UInt8) {start stop : Nat} (ordered : start ≤ stop) :
    ((Utf8.chars bytes).take start).flatten.length ≤
      ((Utf8.chars bytes).take stop).flatten.length := by
  have sooner := Utf8.take_flatten_length_le ((Utf8.chars bytes).take stop) start
  rwa [List.take_take, Nat.min_eq_left ordered] at sooner

theorem subrange?_cut {bytes : List UInt8} {start stop : Nat} (ordered : start ≤ stop)
    {range : Nat × Nat} (found : Utf8.subrange? bytes start stop = some range) :
    range.1 ≤ range.2 ∧ BetweenChars bytes range.1 ∧ BetweenChars bytes range.2 := by
  rw [Utf8.subrange?_eq] at found
  split at found
  next =>
    cases found
    exact ⟨take_chars_length_mono bytes ordered, ⟨start, rfl⟩, ⟨stop, rfl⟩⟩
  next => cases found

theorem trimmedBytes?_cut {bytes set : List UInt8} {leading trailing : Bool} {range : Nat × Nat}
    (found : RowString.trimmedBytes? bytes set leading trailing = some range) :
    range.1 ≤ range.2 ∧ BetweenChars bytes range.1 ∧ BetweenChars bytes range.2 := by
  rw [trimmedBytes?_eq] at found
  have ordered := trimmedRange_fst_le ((Utf8.chars set).contains ·) leading trailing
    (Utf8.chars bytes)
  dsimp only at found
  split at found
  next => cases found
  next =>
    cases found
    exact ⟨take_chars_length_mono bytes ordered, ⟨_, rfl⟩, ⟨_, rfl⟩⟩

theorem valueInEntries?_cut {bytes key : List UInt8} {entryEnd keyEnd : UInt8} {range : Nat × Nat}
    (found : ((rangesBetween (· == entryEnd) 0 0 bytes).findSome? fun (start, stop) =>
      valueRange? bytes key keyEnd start stop) = some range) :
    range.1 ≤ range.2 ∧ NextTo (fun byte => byte == entryEnd || byte == keyEnd) bytes range.1 ∧
      NextTo (fun byte => byte == entryEnd || byte == keyEnd) bytes range.2 := by
  obtain ⟨entry, member, matched⟩ := List.exists_of_findSome?_eq_some found
  obtain ⟨entryOrdered, -, last⟩ := rangesBetween_cut rfl (Nat.zero_le _) (Nat.le_refl _)
    (Or.inl rfl) member
  obtain ⟨ordered, ended, first⟩ := valueRange?_cut entryOrdered matched
  refine ⟨ordered, first.mono (by simp +contextual), ?_⟩
  rw [ended]
  exact last.mono (by simp +contextual)

def BetweenTokens (separator : Option (List UInt8)) (bytes : List UInt8) (place : Nat) : Prop :=
  match separator with
  | none | some [] => NextTo isAsciiSpace bytes place
  | some needle => NextToWhole needle bytes place

theorem tokenRanges_cut {bytes : List UInt8} {separator : Option (List UInt8)} {range : Nat × Nat}
    (member : range ∈ RowString.tokenRanges bytes separator) :
    range.1 ≤ range.2 ∧ BetweenTokens separator bytes range.1 ∧
      BetweenTokens separator bytes range.2 := by
  unfold RowString.tokenRanges at member
  split at member
  · cases member
  · split at member
    · exact rangesBetween_cut rfl (Nat.zero_le _) (Nat.le_refl _) (Or.inl rfl) member
    · exact rangesBetween_cut rfl (Nat.zero_le _) (Nat.le_refl _) (Or.inl rfl) member
    · exact rangesBetweenWhole_cut rfl (Nat.zero_le _) (Or.inl rfl) member

namespace RowString

/-- The part is cut out of the string between two of the places. -/
def CutAt (places : Nat → Prop) (s part : RowString) : Prop :=
  ∃ start stop, start ≤ stop ∧ places start ∧ places stop ∧ part = s.sliceBytes start stop

variable {s part : RowString} {places : Nat → Prop}

theorem cutAt_empty (atFront : places 0) : CutAt places s empty :=
  ⟨0, 0, Nat.le_refl 0, atFront, atFront, rfl⟩

theorem betweenChars_zero (bytes : List UInt8) : BetweenChars bytes 0 := ⟨0, rfl⟩

theorem piece_cut {range : Option (Nat × Nat)} (atFront : places 0)
    (located : ∀ start stop, range = some (start, stop) →
      start ≤ stop ∧ places start ∧ places stop) : CutAt places s (s.piece range) := by
  cases range with
  | none => exact cutAt_empty atFront
  | some range =>
      obtain ⟨ordered, first, last⟩ := located range.1 range.2 rfl
      exact ⟨range.1, range.2, ordered, first, last, rfl⟩

theorem substringRange?_cut {start stop first last : Nat}
    (found : s.substringRange? start stop = some (first, last)) :
    first ≤ last ∧ BetweenChars s.content first ∧ BetweenChars s.content last := by
  unfold substringRange? at found
  rw [bytes_eq] at found
  split at found
  next => cases found
  next => exact subrange?_cut (by omega) found

theorem windowRange?_cut {position : Int} {length : Option Nat} {first last : Nat}
    (found : s.windowRange? position length = .ok (some (first, last))) :
    first ≤ last ∧ BetweenChars s.content first ∧ BetweenChars s.content last := by
  unfold windowRange? at found
  split at found
  next => cases found
  next =>
    obtain ⟨window, -, done⟩ := Checked.bind_eq_ok.mp found
    have located : (if window.2 ≤ max window.1 0 then none
        else s.substringRange? (max window.1 0).toNat window.2.toNat) = some (first, last) :=
      Except.ok.inj done
    split at located
    next => cases located
    next => exact substringRange?_cut located

theorem keyRange?_cut {entryEnd keyEnd : UInt8} {key : RowString} {first last : Nat}
    (found : s.keyRange? entryEnd keyEnd key = some (first, last)) :
    first ≤ last ∧ NextTo (fun byte => byte == entryEnd || byte == keyEnd) s.content first ∧
      NextTo (fun byte => byte == entryEnd || byte == keyEnd) s.content last := by
  unfold keyRange? at found
  rw [bytes_eq] at found
  split at found
  next => cases found
  next => exact valueInEntries?_cut found

theorem substring_cut (s : RowString) (start stop : Nat) :
    CutAt (BetweenChars s.content) s (s.substring start stop) :=
  piece_cut (betweenChars_zero _) fun _ _ => substringRange?_cut

theorem window_cut {position : Int} {length : Option Nat}
    (done : s.window position length = .ok part) : CutAt (BetweenChars s.content) s part := by
  obtain ⟨range, found, done⟩ := Checked.bind_eq_ok.mp done
  cases done
  refine piece_cut (betweenChars_zero _) ?_
  rintro first last rfl
  exact windowRange?_cut found

theorem substringSql_cut {position : Int} {length : Option Int}
    (done : s.substringSql position length = .ok (some part)) :
    CutAt (BetweenChars s.content) s part := by
  unfold substringSql at done
  cases length with
  | none =>
      obtain ⟨value, windowed, done⟩ := Checked.bind_eq_ok.mp done
      cases done
      exact window_cut windowed
  | some length =>
      dsimp only at done
      split at done
      next => cases done
      next =>
        obtain ⟨value, windowed, done⟩ := Checked.bind_eq_ok.mp done
        cases done
        exact window_cut windowed

theorem blankRange_cut (s : RowString) (leading trailing : Bool) :
    (s.blankRange leading trailing).1 ≤ (s.blankRange leading trailing).2 ∧
      NextTo isBlankByte s.content (s.blankRange leading trailing).1 ∧
      NextTo isBlankByte s.content (s.blankRange leading trailing).2 := by
  unfold blankRange
  rw [bytes_eq]
  exact ⟨trimmedRange_fst_le isBlankByte leading trailing s.content,
    trimmedRange_cut isBlankByte leading trailing s.content⟩

theorem trimBlank_cut (s : RowString) (leading trailing : Bool) :
    CutAt (NextTo isBlankByte s.content) s (s.trimBlank leading trailing) :=
  let ⟨ordered, first, last⟩ := blankRange_cut s leading trailing
  ⟨_, _, ordered, first, last, rfl⟩

theorem trimWith_cut (s : RowString) (leading trailing : Bool) (set : RowString) :
    CutAt (BetweenChars s.content) s (s.trimWith leading trailing set) := by
  unfold trimWith
  rw [bytes_eq]
  exact piece_cut (betweenChars_zero _) fun _ _ => trimmedBytes?_cut

theorem split_cut {separator : Option RowString} (member : part ∈ s.split separator) :
    CutAt (BetweenTokens (separator.map content) s.content) s part := by
  unfold split at member
  rw [bytes_eq, funext bytes_eq] at member
  obtain ⟨range, inRanges, rfl⟩ := List.mem_map.mp member
  have ⟨ordered, first, last⟩ := tokenRanges_cut inRanges
  exact ⟨_, _, ordered, first, last, rfl⟩

theorem keyValue_cut {entryEnd keyEnd : UInt8} {key : Option RowString}
    (found : s.keyValue entryEnd keyEnd key = some part) :
    CutAt (NextTo (fun byte => byte == entryEnd || byte == keyEnd) s.content) s part := by
  obtain ⟨range, located, rfl⟩ := Option.map_eq_some_iff.mp found
  obtain ⟨key, -, inEntry⟩ := Option.bind_eq_some_iff.mp located
  obtain ⟨ordered, first, last⟩ := keyRange?_cut inEntry
  exact ⟨_, _, ordered, first, last, rfl⟩

end RowString

end RowText
