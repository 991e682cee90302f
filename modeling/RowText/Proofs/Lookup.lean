import RowText.Proofs.Tokens

namespace RowText

structure Assigns (keyEnd : UInt8) (key value entry : List UInt8) : Prop where
  spelled : entry = key ++ keyEnd :: value
  first : keyEnd ∉ key

inductive FirstValue (keyEnd : UInt8) (key value : List UInt8) : List (List UInt8) → Prop
  | here {entry : List UInt8} {rest : List (List UInt8)}
      (assigned : Assigns keyEnd key value entry) : FirstValue keyEnd key value (entry :: rest)
  | later {entry : List UInt8} {rest : List (List UInt8)}
      (skipped : ∀ other, ¬ Assigns keyEnd key other entry)
      (found : FirstValue keyEnd key value rest) : FirstValue keyEnd key value (entry :: rest)

variable {keyEnd : UInt8} {key value : List UInt8}

theorem Assigns.findIdx? {entry : List UInt8} (assigned : Assigns keyEnd key value entry) :
    entry.findIdx? (· == keyEnd) = some key.length := by
  have none : key.findIdx? (· == keyEnd) = none := by
    rw [List.findIdx?_eq_none_iff]
    intro byte member
    rw [beq_eq_false_iff_ne]
    rintro rfl
    exact assigned.first member
  rw [assigned.spelled, List.findIdx?_append, none, List.findIdx?_cons, beq_self_eq_true]
  simp

theorem assigns_take {entry : List UInt8} {position : Nat}
    (located : entry.findIdx? (· == keyEnd) = some position) :
    Assigns keyEnd (entry.take position) (entry.drop (position + 1)) entry := by
  obtain ⟨inside, here, before⟩ := List.findIdx?_eq_some_iff_getElem.mp located
  refine ⟨?_, fun member => ?_⟩
  · rw [← beq_iff_eq.mp here, ← List.drop_eq_getElem_cons inside, List.take_append_drop]
  · obtain ⟨index, within, rfl⟩ := List.getElem_of_mem member
    rw [List.length_take] at within
    rw [List.getElem_take] at before
    exact before index (by omega) (beq_self_eq_true _)

theorem Assigns.unique {entry other : List UInt8} (assigned : Assigns keyEnd key value entry)
    (otherAssigned : Assigns keyEnd key other entry) : value = other := by
  have same := assigned.spelled.symm.trans otherAssigned.spelled
  exact (List.cons.inj (List.append_cancel_left same)).2

theorem byteSlice_drop (bytes : List UInt8) (start stop count : Nat) :
    (byteSlice bytes start stop).drop count = byteSlice bytes (start + count) stop := by
  rw [byteSlice, byteSlice, List.drop_take, List.drop_drop, Nat.sub_sub]

theorem valueRange?_iff (bytes key value : List UInt8) (keyEnd : UInt8) (start stop : Nat) :
    (valueRange? bytes key keyEnd start stop).map (fun range => byteSlice bytes range.1 range.2) =
        some value ↔
      Assigns keyEnd key value (byteSlice bytes start stop) := by
  unfold valueRange?
  dsimp only
  constructor
  · intro found
    split at found
    next => cases found
    next position located =>
      split at found
      next same =>
        have assigned := assigns_take located
        rw [Option.map_some, Option.some.injEq, Nat.add_assoc, ← byteSlice_drop] at found
        rwa [beq_iff_eq.mp same, found] at assigned
      next => cases found
  · intro assigned
    have front : (byteSlice bytes start stop).take key.length = key := by
      rw [assigned.spelled, List.take_left]
    have behind : (byteSlice bytes start stop).drop (key.length + 1) = value := by
      rw [assigned.spelled, ← List.drop_drop, List.drop_left, List.drop_one, List.tail_cons]
    rw [assigned.findIdx?]
    dsimp only
    rw [front, beq_self_eq_true, if_pos rfl, Option.map_some, Nat.add_assoc, ← byteSlice_drop,
      behind]

theorem findSome?_valueRange?_iff (bytes : List UInt8) (ranges : List (Nat × Nat)) :
    (ranges.findSome? fun range => valueRange? bytes key keyEnd range.1 range.2).map
        (fun range => byteSlice bytes range.1 range.2) = some value ↔
      FirstValue keyEnd key value (slicesOf bytes ranges) := by
  induction ranges with
  | nil => exact ⟨nofun, nofun⟩
  | cons range ranges ih =>
      have inEntry (value : List UInt8) :=
        valueRange?_iff bytes key value keyEnd range.1 range.2
      rw [List.findSome?_cons, slicesOf_cons]
      cases found : valueRange? bytes key keyEnd range.1 range.2 with
      | none =>
          rw [found] at inEntry
          have skipped : ∀ other, ¬ Assigns keyEnd key other (byteSlice bytes range.1 range.2) :=
            fun other assigned => nomatch (inEntry other).mpr assigned
          refine ih.trans ⟨.later skipped, fun first => ?_⟩
          cases first with
          | here assigned => exact absurd assigned (skipped value)
          | later _ later => exact later
      | some result =>
          rw [found] at inEntry
          refine (inEntry value).trans ⟨.here, fun first => ?_⟩
          cases first with
          | here assigned => exact assigned
          | later skipped _ => exact absurd ((inEntry _).mp rfl) (skipped _)

theorem firstValue_iff_exists (keyEnd : UInt8) (key : List UInt8) (entries : List (List UInt8)) :
    (∃ value, FirstValue keyEnd key value entries) ↔
      ∃ entry ∈ entries, ∃ value, Assigns keyEnd key value entry := by
  constructor
  · rintro ⟨value, first⟩
    induction first with
    | here assigned => exact ⟨_, List.mem_cons_self, value, assigned⟩
    | later _ _ ih =>
        obtain ⟨entry, member, assigned⟩ := ih
        exact ⟨entry, List.mem_cons_of_mem _ member, assigned⟩
  · rintro ⟨entry, member, value, assigned⟩
    induction entries with
    | nil => cases member
    | cons first rest ih =>
        by_cases here : ∃ other, Assigns keyEnd key other first
        · obtain ⟨other, assignedHere⟩ := here
          exact ⟨other, .here assignedHere⟩
        · rcases List.mem_cons.mp member with rfl | later
          · exact absurd ⟨value, assigned⟩ here
          · obtain ⟨found, first⟩ := ih later
            exact ⟨found, .later (not_exists.mp here) first⟩

def spellEntry (keyEnd : UInt8) (pair : List UInt8 × List UInt8) : List UInt8 :=
  pair.1 ++ keyEnd :: pair.2

def spellEntries (entryEnd keyEnd : UInt8) (pairs : List (List UInt8 × List UInt8)) : List UInt8 :=
  [entryEnd].intercalate (pairs.map (spellEntry keyEnd))

structure Spellable (entryEnd keyEnd : UInt8) (pair : List UInt8 × List UInt8) : Prop where
  named : pair.1 ≠ []
  key : entryEnd ∉ pair.1 ∧ keyEnd ∉ pair.1
  value : entryEnd ∉ pair.2

theorem splitOn_spellEntries {entryEnd : UInt8} (apart : entryEnd ≠ keyEnd)
    {pairs : List (List UInt8 × List UInt8)} (some : pairs ≠ [])
    (spellable : ∀ pair ∈ pairs, Spellable entryEnd keyEnd pair) :
    (spellEntries entryEnd keyEnd pairs).splitOn entryEnd = pairs.map (spellEntry keyEnd) := by
  apply List.splitOn_intercalate
  · intro entry member inside
    obtain ⟨pair, given, rfl⟩ := List.mem_map.mp member
    have fine := spellable pair given
    rcases List.mem_append.mp inside with inKey | behind
    · exact fine.key.1 inKey
    · rcases List.mem_cons.mp behind with same | inValue
      · exact apart same
      · exact fine.value inValue
  · rwa [ne_eq, List.map_eq_nil_iff]

theorem firstValue_spelled {pairs : List (List UInt8 × List UInt8)}
    (ended : ∀ pair ∈ pairs, keyEnd ∉ pair.1) :
    FirstValue keyEnd key value (pairs.map (spellEntry keyEnd)) ↔
      pairs.lookup key = some value := by
  induction pairs with
  | nil => exact ⟨nofun, nofun⟩
  | cons pair pairs ih =>
      obtain ⟨endedHere, endedLater⟩ := List.forall_mem_cons.mp ended
      obtain ⟨name, assigned⟩ := pair
      have own : Assigns keyEnd name assigned (spellEntry keyEnd (name, assigned)) :=
        ⟨rfl, endedHere⟩
      rw [List.map_cons, List.lookup_cons]
      cases same : key == name with
      | true =>
          obtain rfl := beq_iff_eq.mp same
          constructor
          · intro first
            cases first with
            | here also => rw [own.unique also]
            | later skipped _ => exact absurd own (skipped assigned)
          · intro found
            exact .here (Option.some.inj found ▸ own)
      | false =>
          have skipped : ∀ other, ¬ Assigns keyEnd key other (spellEntry keyEnd (name, assigned)) := by
            intro other also
            -- Both keys end at the first delimiter, so they would be the same.
            have lengths := also.findIdx?.symm.trans own.findIdx?
            have keys := List.append_inj_left (also.spelled.symm.trans own.spelled)
              (Option.some.inj lengths)
            rw [keys, beq_self_eq_true] at same
            cases same
          refine Iff.trans ⟨fun first => ?_, .later skipped⟩ (ih endedLater)
          cases first with
          | here also => exact absurd also (skipped value)
          | later _ found => exact found

namespace RowString

variable {s : RowString}

theorem keyValue_iff (wellFormed : s.WellFormed) {name : RowString} (nameWellFormed : name.WellFormed)
    (named : name.content ≠ []) (entryEnd keyEnd : UInt8) (value : List UInt8) :
    (s.keyValue entryEnd keyEnd (some name)).map content = some value ↔
      FirstValue keyEnd name.content value (s.content.splitOn entryEnd) := by
  have fine : ∀ k ∈ some name, k.WellFormed := fun k member => Option.some.inj member ▸ nameWellFormed
  rw [keyValue_content wellFormed fine, Option.map_some, Option.bind_some,
    if_neg (by rwa [List.isEmpty_iff]), List.splitOn, ← slicesOf_rangesBetween]
  exact findSome?_valueRange?_iff s.content _

theorem keyValue_eq_none_iff (wellFormed : s.WellFormed) {name : RowString}
    (nameWellFormed : name.WellFormed) (named : name.content ≠ []) (entryEnd keyEnd : UInt8) :
    s.keyValue entryEnd keyEnd (some name) = none ↔
      ∀ entry ∈ s.content.splitOn entryEnd, ∀ value, ¬ Assigns keyEnd name.content value entry := by
  have found := keyValue_iff wellFormed nameWellFormed named entryEnd keyEnd
  have assigned := firstValue_iff_exists keyEnd name.content (s.content.splitOn entryEnd)
  rw [← Option.map_eq_none_iff (f := content), Option.eq_none_iff_forall_ne_some]
  simp only [ne_eq, found, ← not_exists, assigned, exists_prop]

theorem keyValue_of_nil {name : RowString} (nameWellFormed : name.WellFormed)
    (unnamed : name.content = []) (entryEnd keyEnd : UInt8) :
    s.keyValue entryEnd keyEnd (some name) = none := by
  have isEmpty : name.isEmpty = true := by rw [isEmpty_eq nameWellFormed, unnamed, List.isEmpty_nil]
  rw [keyValue, Option.bind_some, keyRange?, if_pos isEmpty, Option.map_none]

theorem keyValue_spelled (wellFormed : s.WellFormed) {name : RowString}
    (nameWellFormed : name.WellFormed) {entryEnd keyEnd : UInt8} (apart : entryEnd ≠ keyEnd)
    {pairs : List (List UInt8 × List UInt8)}
    (spellable : ∀ pair ∈ pairs, Spellable entryEnd keyEnd pair)
    (spelled : s.content = spellEntries entryEnd keyEnd pairs) :
    (s.keyValue entryEnd keyEnd (some name)).map content = pairs.lookup name.content := by
  by_cases unnamed : name.content = []
  · rw [keyValue_of_nil nameWellFormed unnamed, unnamed, Option.map_none, eq_comm,
      List.lookup_eq_none_iff]
    intro pair member
    rw [bne_iff_ne]
    exact (spellable pair member).named.symm
  · apply Option.ext
    intro value
    rw [keyValue_iff wellFormed nameWellFormed unnamed, spelled]
    by_cases nothing : pairs = []
    · -- The empty text has one entry, which assigns nothing.
      rw [nothing]
      refine iff_of_false (fun first => ?_) nofun
      cases first with
      | here assigned => exact absurd assigned.spelled (by simp)
      | later _ found => cases found
    · rw [splitOn_spellEntries apart nothing spellable]
      exact firstValue_spelled fun pair member => (spellable pair member).key.2

/-- A key has the value that the first entry to assign it any does, so that spelled pairs give back
their list. An absent or empty key has none. -/
theorem keyValue_first (wellFormed : s.WellFormed) (entryEnd keyEnd : UInt8) :
    s.keyValue entryEnd keyEnd none = none ∧
    ∀ name : RowString, name.WellFormed →
      (name.content = [] → s.keyValue entryEnd keyEnd (some name) = none) ∧
      (name.content ≠ [] →
        (∀ value, (s.keyValue entryEnd keyEnd (some name)).map content = some value ↔
          FirstValue keyEnd name.content value (s.content.splitOn entryEnd)) ∧
        (s.keyValue entryEnd keyEnd (some name) = none ↔
          ∀ entry ∈ s.content.splitOn entryEnd, ∀ value,
            ¬ Assigns keyEnd name.content value entry)) ∧
      ∀ pairs : List (List UInt8 × List UInt8), entryEnd ≠ keyEnd →
        (∀ pair ∈ pairs, Spellable entryEnd keyEnd pair) →
          s.content = spellEntries entryEnd keyEnd pairs →
            (s.keyValue entryEnd keyEnd (some name)).map content = pairs.lookup name.content := by
  refine ⟨rfl, fun name nameWellFormed => ⟨?_, ?_, ?_⟩⟩
  · intro unnamed
    exact keyValue_of_nil nameWellFormed unnamed entryEnd keyEnd
  · intro named
    exact ⟨keyValue_iff wellFormed nameWellFormed named entryEnd keyEnd,
      keyValue_eq_none_iff wellFormed nameWellFormed named entryEnd keyEnd⟩
  · intro pairs apart spellable spelled
    exact keyValue_spelled wellFormed nameWellFormed apart spellable spelled

def straddlingEntries : RowString :=
  view ⟨[⟨[0x20, 0x61, 0x3D, 0x3B, 0x62]⟩, ⟨[]⟩, ⟨[0x3D, 0x3D, 0x31, 0x3B, 0x61, 0x3D, 0x32]⟩],
    1, 11⟩ none

theorem keyValue_first_straddlingEntries :
    straddlingEntries.WellFormed ∧
      FirstValue 0x3D [0x62] [0x3D, 0x31] (straddlingEntries.content.splitOn 0x3B) ∧
      (straddlingEntries.keyValue 0x3B 0x3D (some (ofText "b"))).map content = some [0x3D, 0x31] ∧
      (straddlingEntries.keyValue 0x3B 0x3D (some (ofText "a"))).map content = some [] := by
  have wellFormed : straddlingEntries.WellFormed := ⟨by simp, by decide, by simp⟩
  have ⟨_, found⟩ := keyValue_first wellFormed 0x3B 0x3D
  obtain ⟨-, inEntries, -⟩ := found (ofText "b") (ofText_wellFormed _)
  obtain ⟨-, -, inPairs⟩ := found (ofText "a") (ofText_wellFormed _)
  have first : FirstValue 0x3D [0x62] [0x3D, 0x31] (straddlingEntries.content.splitOn 0x3B) := by
    refine .later (fun other assigned => ?_) (.here ⟨rfl, by decide⟩)
    exact absurd (List.cons.inj assigned.spelled).1 (by decide)
  refine ⟨wellFormed, first, ((inEntries nofun).1 _).mpr first, ?_⟩
  refine inPairs [([0x61], []), ([0x62], [0x3D, 0x31]), ([0x61], [0x32])] (by decide) ?_ rfl
  simp only [List.forall_mem_cons]
  exact ⟨⟨nofun, by decide, by decide⟩, ⟨nofun, by decide, by decide⟩,
    ⟨nofun, by decide, by decide⟩, nofun⟩

end RowString

end RowText
