import RowText.RowString.Trim
import RowText.RowString.Split
import RowText.Proofs.Chars

namespace RowText

theorem leadingRun_le {α : Type} (test : α → Bool) (xs : List α) :
    leadingRun test xs ≤ xs.length :=
  (List.takeWhile_sublist test).length_le

theorem trimmedRange_le {α : Type} (test : α → Bool) (leading trailing : Bool) (xs : List α) :
    (trimmedRange test leading trailing xs).2 ≤ xs.length := by
  unfold trimmedRange
  cases trailing with
  | false => exact Nat.le_refl _
  | true => exact Nat.sub_le _ _

theorem trimmedRange_fst_le {α : Type} (test : α → Bool) (leading trailing : Bool) (xs : List α) :
    (trimmedRange test leading trailing xs).1 ≤ (trimmedRange test leading trailing xs).2 := by
  have front : (trimmedRange test leading trailing xs).1 ≤ xs.length := by
    cases leading with
    | false => exact Nat.zero_le _
    | true => exact leadingRun_le test xs
  cases trailing with
  | false => exact front
  | true =>
      have back := leadingRun_le test (xs.drop (trimmedRange test leading true xs).1).reverse
      rw [List.length_reverse, List.length_drop] at back
      change _ ≤ xs.length -
        leadingRun test (xs.drop (trimmedRange test leading true xs).1).reverse
      omega

theorem trimmedBytes?_eq (bytes set : List UInt8) (leading trailing : Bool) :
    RowString.trimmedBytes? bytes set leading trailing =
      let members := Utf8.chars set
      let (first, last) := trimmedRange (members.contains ·) leading trailing (Utf8.chars bytes)
      if first = last then none
      else some (((Utf8.chars bytes).take first).flatten.length,
        ((Utf8.chars bytes).take last).flatten.length) := by
  have ordered := trimmedRange_fst_le ((Utf8.chars set).contains ·) leading trailing
    (Utf8.chars bytes)
  have inside := trimmedRange_le ((Utf8.chars set).contains ·) leading trailing (Utf8.chars bytes)
  unfold RowString.trimmedBytes? Utf8.charRanges
  dsimp only
  generalize trimmedRange ((Utf8.chars set).contains ·) leading trailing (Utf8.chars bytes) = range
    at ordered inside ⊢
  by_cases nothing : range.1 = range.2
  · rw [if_pos nothing, if_pos nothing]
  · rw [if_neg nothing, if_neg nothing, Utf8.rangesFrom_getElem?, Utf8.rangesFrom_getElem?,
      List.getElem?_eq_getElem (by omega : range.1 < (Utf8.chars bytes).length),
      List.getElem?_eq_getElem (by omega : range.2 - 1 < (Utf8.chars bytes).length)]
    simp only [Option.map_some, Nat.zero_add]
    rw [Nat.sub_add_cancel (by omega)]

theorem trimmedBytes?_le {bytes set : List UInt8} {leading trailing : Bool} {start stop : Nat}
    (found : RowString.trimmedBytes? bytes set leading trailing = some (start, stop)) :
    stop ≤ bytes.length := by
  rw [trimmedBytes?_eq] at found
  dsimp only at found
  split at found
  · cases found
  · cases found
    have bound := Utf8.take_flatten_length_le (Utf8.chars bytes)
    simpa only [Utf8.chars_flatten] using bound _

theorem rangesBetween_le {test : UInt8 → Bool} {start index : Nat} {bytes : List UInt8}
    {range : Nat × Nat} (member : range ∈ rangesBetween test start index bytes) :
    range.2 ≤ index + bytes.length := by
  induction bytes generalizing start index with
  | nil =>
      rw [List.mem_singleton.mp member]
      exact Nat.le_refl _
  | cons byte rest ih =>
      rw [List.length_cons]
      unfold rangesBetween at member
      split at member
      · rcases List.mem_cons.mp member with rfl | later
        · exact Nat.le_add_right _ _
        · have bound := ih later
          omega
      · have bound := ih member
        omega

theorem rangesBetweenWhole_le {first : UInt8} {others : List UInt8} {start : Nat}
    {bytes : List UInt8} {range : Nat × Nat}
    (member : range ∈ rangesBetweenWhole first others start bytes) :
    range.2 ≤ start + bytes.length := by
  fun_induction rangesBetweenWhole first others start bytes with
  | case1 start bytes absent =>
      obtain rfl := List.mem_singleton.mp member
      exact Nat.le_refl _
  | case2 start bytes found present next ih =>
      have bound := findBytes?_bound present
      rcases List.mem_cons.mp member with rfl | later
      · dsimp only
        omega
      · have laterBound := ih later
        rw [List.length_drop] at laterBound
        omega

theorem tokenRanges_le {bytes : List UInt8} {separator : Option (List UInt8)} {range : Nat × Nat}
    (member : range ∈ RowString.tokenRanges bytes separator) : range.2 ≤ bytes.length := by
  rw [← Nat.zero_add bytes.length]
  unfold RowString.tokenRanges at member
  split at member
  · cases member
  · split at member
    · exact rangesBetween_le member
    · exact rangesBetween_le member
    · exact rangesBetweenWhole_le member

theorem valueRange?_stop {bytes key : List UInt8} {keyEnd : UInt8} {start stop : Nat}
    {range : Nat × Nat} (found : valueRange? bytes key keyEnd start stop = some range) :
    range.2 = stop := by
  unfold valueRange? at found
  dsimp only at found
  split at found
  · cases found
  · split at found
    · cases found
      rfl
    · cases found

namespace RowString

variable {s : RowString}

theorem trimBlank_content (wellFormed : s.WellFormed) (leading trailing : Bool) :
    (s.trimBlank leading trailing).content =
      byteSlice s.content (trimmedRange isBlankByte leading trailing s.content).1
        (trimmedRange isBlankByte leading trailing s.content).2 := by
  unfold trimBlank blankRange
  rw [bytes_eq]
  exact sliceBytes_content wellFormed (trimmedRange_le _ _ _ _)

theorem trimWith_content (wellFormed : s.WellFormed) (leading trailing : Bool) (set : RowString) :
    (s.trimWith leading trailing set).content =
      match trimmedBytes? s.content set.content leading trailing with
      | some (start, stop) => byteSlice s.content start stop
      | none => [] := by
  unfold trimWith
  rw [bytes_eq, bytes_eq]
  cases found : trimmedBytes? s.content set.content leading trailing with
  | none => rfl
  | some range => exact sliceBytes_content wellFormed (trimmedBytes?_le found)

theorem split_content (wellFormed : s.WellFormed) (separator : Option RowString) :
    (s.split separator).map content =
      (tokenRanges s.content (separator.map content)).map fun (start, stop) =>
        byteSlice s.content start stop := by
  unfold split
  rw [bytes_eq, funext bytes_eq, List.map_map]
  apply List.map_congr_left
  intro range member
  exact sliceBytes_content wellFormed (tokenRanges_le member)

theorem keyValue_content (wellFormed : s.WellFormed) {key : Option RowString}
    (keyWellFormed : ∀ k ∈ key, k.WellFormed) (entryEnd keyEnd : UInt8) :
    (s.keyValue entryEnd keyEnd key).map content =
      (key.map content).bind fun key =>
        if key.isEmpty then none
        else
          ((rangesBetween (· == entryEnd) 0 0 s.content).findSome? fun (start, stop) =>
            valueRange? s.content key keyEnd start stop).map fun (start, stop) =>
              byteSlice s.content start stop := by
  unfold keyValue keyRange?
  cases key with
  | none => rfl
  | some key =>
      simp only [Option.map_some, Option.bind_some, isEmpty_eq (keyWellFormed key rfl), bytes_eq]
      split
      · rfl
      · rw [Option.map_map]
        apply Option.map_congr
        intro range found
        obtain ⟨entry, member, matched⟩ := List.exists_of_findSome?_eq_some found
        have bound := rangesBetween_le member
        rw [← valueRange?_stop matched, Nat.zero_add] at bound
        exact sliceBytes_content wellFormed bound

end RowString

end RowText
