import RowText.Proofs.Search
import RowText.Proofs.Join
import RowText.Proofs.WellFormed
import Mathlib.Order.Bounds.Basic

namespace RowText

theorem findBytes?_isLeast {needle bytes : List UInt8} {offset : Nat}
    (found : findBytes? needle bytes = some offset) :
    IsLeast {place | needle <+: bytes.drop place} offset := by
  induction bytes generalizing offset with
  | nil =>
      simp only [findBytes?, Option.ite_none_right_eq_some, List.isEmpty_iff,
        Option.some.injEq] at found
      obtain ⟨rfl, rfl⟩ := found
      exact ⟨List.nil_prefix, fun place _ => Nat.zero_le place⟩
  | cons byte rest ih =>
      unfold findBytes? at found
      split at found
      next atFront =>
        cases found
        exact ⟨List.isPrefixOf_iff_prefix.mp atFront, fun place _ => Nat.zero_le place⟩
      next notAtFront =>
        obtain ⟨before, foundLater, rfl⟩ := Option.map_eq_some_iff.mp found
        obtain ⟨standing, least⟩ := ih foundLater
        refine ⟨standing, ?_⟩
        intro place standingThere
        cases place with
        | zero => exact absurd (List.isPrefixOf_iff_prefix.mpr standingThere) notAtFront
        | succ place => exact Nat.succ_le_succ (least standingThere)

theorem findBytes?_eq_none_iff {needle bytes : List UInt8} :
    findBytes? needle bytes = none ↔ ¬ needle <:+: bytes := by
  rw [← findBytes?_isSome, Bool.not_eq_true, Option.isSome_eq_false_iff, Option.isNone_iff_eq_none]

theorem isLeast_iff_of_mem {places : Set Nat} {place : Nat} (standing : place ∈ places) :
    IsLeast places place ↔ ∀ other, other < place → other ∉ places := by
  constructor
  · rintro ⟨-, least⟩ other before found
    exact absurd (least found) (Nat.not_le_of_lt before)
  · intro none
    exact ⟨standing, fun other found => Nat.le_of_not_lt fun before => none other before found⟩

theorem isLeast_append_iff {separator part : List UInt8} (rest : List UInt8) :
    IsLeast {place | separator <+: (part ++ (separator ++ rest)).drop place} part.length ↔
      IsLeast {place | separator <+: (part ++ separator).drop place} part.length := by
  have behind : separator <+: (part ++ (separator ++ rest)).drop part.length := by
    rw [List.drop_left]
    exact List.prefix_append _ _
  have alone : separator <+: (part ++ separator).drop part.length := by
    rw [List.drop_left]
  rw [isLeast_iff_of_mem behind, isLeast_iff_of_mem alone]
  refine forall₂_congr fun place before => not_congr ?_
  have inside : place ≤ (part ++ separator).length := by
    rw [List.length_append]
    omega
  have longer : (part ++ separator).drop place <+: (part ++ (separator ++ rest)).drop place := by
    rw [← List.append_assoc, List.drop_append_of_le_length inside]
    exact List.prefix_append _ _
  constructor
  · intro standing
    apply List.prefix_of_prefix_length_le standing longer
    rw [List.length_drop, List.length_append]
    omega
  · intro standing
    exact standing.trans longer

/-- In each part but the last, followed by the separator, the separator first stands behind the
part; in the last one it does not stand at all. -/
structure Separated (separator : List UInt8) (parts : List (List UInt8)) : Prop where
  first : ∀ part ∈ parts.dropLast,
    IsLeast {place | separator <+: (part ++ separator).drop place} part.length
  absent : ∀ last ∈ parts.getLast?, ¬ separator <:+: last

@[simp] theorem separated_singleton {separator part : List UInt8} :
    Separated separator [part] ↔ ¬ separator <:+: part := by
  constructor
  · intro separated
    exact separated.absent part rfl
  · intro absent
    exact ⟨nofun, fun last member => Option.some.inj member ▸ absent⟩

theorem separated_cons_cons {separator part next : List UInt8} {rest : List (List UInt8)} :
    Separated separator (part :: next :: rest) ↔
      IsLeast {place | separator <+: (part ++ separator).drop place} part.length ∧
        Separated separator (next :: rest) := by
  have shorter : (part :: next :: rest).dropLast = part :: (next :: rest).dropLast := rfl
  constructor
  · rintro ⟨first, absent⟩
    rw [shorter, List.forall_mem_cons] at first
    exact ⟨first.1, first.2, absent⟩
  · rintro ⟨first, separated⟩
    refine ⟨?_, separated.absent⟩
    rw [shorter, List.forall_mem_cons]
    exact ⟨first, separated.first⟩

theorem intercalate_pair {separator part next : List UInt8} {rest : List (List UInt8)} :
    separator.intercalate (part :: next :: rest) =
      part ++ (separator ++ separator.intercalate (next :: rest)) := by
  rw [List.intercalate_cons_cons, List.append_assoc]

theorem infix_of_intercalate_pair {separator part next last : List UInt8}
    {rest : List (List UInt8)} (joined : separator.intercalate (part :: next :: rest) = last) :
    separator <:+: last := by
  rw [← joined, List.intercalate_cons_cons]
  exact ⟨part, _, rfl⟩

theorem Separated.unique {separator : List UInt8} {xs ys : List (List UInt8)}
    (xsSeparated : Separated separator xs) (ysSeparated : Separated separator ys)
    (xsNonempty : xs ≠ []) (ysNonempty : ys ≠ [])
    (joined : separator.intercalate xs = separator.intercalate ys) : xs = ys := by
  induction xs generalizing ys with
  | nil => exact absurd rfl xsNonempty
  | cons x xs ih =>
      obtain ⟨y, ys, rfl⟩ := List.exists_cons_of_ne_nil ysNonempty
      cases xs with
      | nil =>
          rw [List.intercalate_singleton] at joined
          cases ys with
          | nil => rw [joined, List.intercalate_singleton]
          | cons =>
              exact absurd (infix_of_intercalate_pair joined.symm)
                (separated_singleton.mp xsSeparated)
      | cons nextX xs =>
          cases ys with
          | nil =>
              rw [List.intercalate_singleton] at joined
              exact absurd (infix_of_intercalate_pair joined) (separated_singleton.mp ysSeparated)
          | cons nextY ys =>
              -- Both first parts end where the separator first stands in the join.
              obtain ⟨xFirst, xsRest⟩ := separated_cons_cons.mp xsSeparated
              obtain ⟨yFirst, ysRest⟩ := separated_cons_cons.mp ysSeparated
              rw [intercalate_pair, intercalate_pair] at joined
              rw [← isLeast_append_iff (separator.intercalate (nextX :: xs)), joined] at xFirst
              rw [← isLeast_append_iff (separator.intercalate (nextY :: ys))] at yFirst
              obtain ⟨rfl, others⟩ := List.append_inj joined (IsLeast.unique xFirst yFirst)
              have same : nextX :: xs = nextY :: ys :=
                ih xsRest ysRest nofun nofun (List.append_cancel_left others)
              rw [same]

def slicesOf (bytes : List UInt8) (ranges : List (Nat × Nat)) : List (List UInt8) :=
  ranges.map fun range => byteSlice bytes range.1 range.2

@[simp] theorem slicesOf_cons (bytes : List UInt8) (start stop : Nat) (ranges : List (Nat × Nat)) :
    slicesOf bytes ((start, stop) :: ranges) = byteSlice bytes start stop :: slicesOf bytes ranges :=
  rfl

theorem rangesBetweenWhole_separated {first : UInt8} {others whole bytes : List UInt8}
    {start : Nat} (rest : whole.drop start = bytes) :
    slicesOf whole (rangesBetweenWhole first others start bytes) ≠ [] ∧
      (first :: others).intercalate (slicesOf whole (rangesBetweenWhole first others start bytes)) =
        bytes ∧
      Separated (first :: others) (slicesOf whole (rangesBetweenWhole first others start bytes)) := by
  fun_induction rangesBetweenWhole first others start bytes with
  | case1 start bytes absent =>
      rw [slicesOf_cons, byteSlice_add, rest, List.take_length]
      exact ⟨List.cons_ne_nil _ _, List.intercalate_singleton,
        separated_singleton.mpr (findBytes?_eq_none_iff.mp absent)⟩
  | case2 start bytes found present next ih =>
      -- The bytes are the part in front of the separator, the separator, and what comes behind it.
      obtain ⟨behind, split⟩ := findBytes?_split present
      have bound := findBytes?_bound present
      have front : (bytes.take found).length = found := List.length_take_of_le (by omega)
      have dropped : bytes.drop next = behind := by
        conv_lhs => rw [split, ← List.append_assoc]
        exact List.drop_left' (by rw [List.length_append, front])
      obtain ⟨nonempty, joined, separated⟩ := ih (by rw [← rest, List.drop_drop])
      rw [slicesOf_cons, byteSlice_add, rest]
      obtain ⟨following, later, shape⟩ := List.exists_cons_of_ne_nil nonempty
      rw [shape] at joined separated ⊢
      rw [intercalate_pair, joined, dropped, separated_cons_cons]
      refine ⟨List.cons_ne_nil _ _, split.symm, ?_, separated⟩
      rw [← isLeast_append_iff behind, ← split, front]
      exact findBytes?_isLeast present

theorem byteSlice_succ {bytes rest : List UInt8} {start index : Nat} {byte : UInt8}
    (ordered : start ≤ index) (behind : bytes.drop index = byte :: rest) :
    byteSlice bytes start (index + 1) = byteSlice bytes start index ++ [byte] := by
  have found : (bytes.drop start)[index - start]? = some byte := by
    rw [List.getElem?_drop, Nat.add_sub_cancel' ordered, ← List.head?_drop, behind, List.head?_cons]
  rw [byteSlice, byteSlice, Nat.sub_add_comm ordered, List.take_add_one, found]
  rfl

theorem rangesBetween_eq_splitOnP {test : UInt8 → Bool} {whole bytes : List UInt8}
    {start index : Nat} (rest : whole.drop index = bytes) (ordered : start ≤ index) :
    slicesOf whole (rangesBetween test start index bytes) =
      (bytes.splitOnP test).modifyHead (byteSlice whole start index ++ ·) := by
  -- What was read since `start` stands in front of the first of the parts still to be read.
  induction bytes generalizing start index with
  | nil =>
      rw [rangesBetween, List.splitOnP_nil]
      exact congrArg ([·]) (List.append_nil _).symm
  | cons byte later ih =>
      have laterRest : whole.drop (index + 1) = later := by
        rw [← List.drop_drop, rest, List.drop_one, List.tail_cons]
      rw [rangesBetween, List.splitOnP_cons_eq_if_modifyHead]
      by_cases passes : test byte = true
      · rw [if_pos passes, if_pos passes, slicesOf_cons, ih laterRest (Nat.le_refl _),
          byteSlice_eq_nil (Nat.le_refl _), List.modifyHead_cons, List.append_nil]
        cases later.splitOnP test <;> rfl
      · rw [if_neg passes, if_neg passes, ih laterRest (by omega), byteSlice_succ ordered rest,
          List.modifyHead_modifyHead]
        congr 1
        funext part
        rw [List.append_assoc, List.singleton_append, Function.comp_apply]

theorem slicesOf_rangesBetween (test : UInt8 → Bool) (bytes : List UInt8) :
    slicesOf bytes (rangesBetween test 0 0 bytes) = bytes.splitOnP test := by
  rw [rangesBetween_eq_splitOnP List.drop_zero (Nat.le_refl 0), byteSlice_eq_nil (Nat.le_refl 0)]
  exact congrFun List.modifyHead_id _

theorem length_splitOnP {α : Type} (test : α → Bool) (xs : List α) :
    (xs.splitOnP test).length = (xs.filter test).length + 1 := by
  induction xs with
  | nil => rfl
  | cons x xs ih =>
      rw [List.splitOnP_cons_eq_if_modifyHead, List.filter_cons]
      split
      · rw [List.length_cons, ih, List.length_cons]
      · rw [List.length_modifyHead, ih]

theorem not_of_mem_splitOnP {α : Type} {test : α → Bool} {xs part : List α}
    (member : part ∈ xs.splitOnP test) : ∀ x ∈ part, ¬ test x = true := by
  induction xs generalizing part with
  | nil =>
      rw [List.mem_singleton.mp member]
      exact nofun
  | cons x xs ih =>
      rw [List.splitOnP_cons_eq_if_modifyHead] at member
      split at member
      next =>
        rcases List.mem_cons.mp member with rfl | later
        · exact nofun
        · exact ih later
      next fails =>
        obtain ⟨first, others, shape⟩ := List.exists_cons_of_ne_nil (List.splitOnP_ne_nil test xs)
        rw [shape, List.modifyHead_cons] at member
        rw [shape] at ih
        rcases List.mem_cons.mp member with rfl | later
        · exact List.forall_mem_cons.mpr ⟨fails, ih List.mem_cons_self⟩
        · exact ih (List.mem_cons_of_mem _ later)

def asciiSpaces : List UInt8 := [0x20, 0x09, 0x0A, 0x0C, 0x0D]

theorem isAsciiSpace_iff (byte : UInt8) : isAsciiSpace byte = true ↔ byte ∈ asciiSpaces := by
  simp [isAsciiSpace, asciiSpaces, or_assoc]

def interleave (parts : List (List UInt8)) (between : List UInt8) : List UInt8 :=
  (List.zipWith (· ++ ·) parts (between.map (fun byte => [byte]) ++ [[]])).flatten

namespace RowString

variable {s : RowString}

theorem split_slices (wellFormed : s.WellFormed) (separator : Option RowString) :
    (s.split separator).map content =
      slicesOf s.content (tokenRanges s.content (separator.map content)) :=
  split_content wellFormed separator

theorem split_separated (wellFormed : s.WellFormed) {separator : RowString}
    (nonempty : separator.content ≠ []) :
    ((s.split (some separator)).map content = [] ↔ s.content = []) ∧
      separator.content.intercalate ((s.split (some separator)).map content) = s.content ∧
      Separated separator.content ((s.split (some separator)).map content) := by
  rw [split_slices wellFormed, Option.map_some]
  unfold tokenRanges
  by_cases nothing : s.content = []
  · rw [nothing]
    exact ⟨Iff.intro (fun _ => rfl) fun _ => rfl, rfl, ⟨nofun, nofun⟩⟩
  · rw [if_neg (by rwa [List.isEmpty_iff])]
    obtain ⟨first, others, shape⟩ := List.exists_cons_of_ne_nil nonempty
    rw [shape]
    obtain ⟨present, joined, separated⟩ := rangesBetweenWhole_separated List.drop_zero
    exact ⟨⟨fun none => absurd none present, fun none => absurd none nothing⟩, joined, separated⟩

theorem split_content_of_space (wellFormed : s.WellFormed) {separator : Option RowString}
    (absent : ∀ given ∈ separator, given.content = []) (nonempty : s.content ≠ []) :
    (s.split separator).map content = s.content.splitOnP isAsciiSpace := by
  have ranges : tokenRanges s.content (separator.map content) =
      rangesBetween isAsciiSpace 0 0 s.content := by
    unfold tokenRanges
    rw [if_neg (by rwa [List.isEmpty_iff])]
    cases separator with
    | none => rfl
    | some given => rw [Option.map_some, absent given rfl]
  rw [split_slices wellFormed, ranges, slicesOf_rangesBetween]

theorem concatWith_present (separator : RowString) (parts : List RowString) :
    (concatWith (some separator) (parts.map some)).map content =
      some (separator.content.intercalate (parts.map content)) := by
  have present : (parts.map some).filterMap id = parts := by
    rw [List.filterMap_map, Function.id_comp, List.filterMap_some]
  rw [concatWith, present, Option.map_some, Option.map_some, join_content, Option.map_some,
    Option.getD_some]

theorem split_eq_iff (wellFormed : s.WellFormed) {separator : RowString}
    (nonempty : separator.content ≠ []) (parts : List RowString) :
    (s.split (some separator)).map content = parts.map content ↔
      (parts = [] ↔ s.content = []) ∧
        (concatWith (some separator) (parts.map some)).map content = some s.content ∧
        Separated separator.content (parts.map content) := by
  obtain ⟨empty, joined, separated⟩ := split_separated wellFormed nonempty
  rw [concatWith_present, Option.some.injEq]
  constructor
  · intro same
    rw [same] at empty joined separated
    exact ⟨List.map_eq_nil_iff.symm.trans empty, joined, separated⟩
  · rintro ⟨partsEmpty, partsJoined, partsSeparated⟩
    by_cases nothing : s.content = []
    · rw [empty.mpr nothing, partsEmpty.mpr nothing, List.map_nil]
    · exact separated.unique partsSeparated (mt empty.mp nothing)
        (mt (List.map_eq_nil_iff.trans partsEmpty).mp nothing) (joined.trans partsJoined.symm)

theorem split_concatWith {separator joined : RowString} {parts : List RowString}
    (nonempty : separator.content ≠ [])
    (made : concatWith (some separator) (parts.map some) = some joined)
    (someBytes : joined.content ≠ [])
    (separated : Separated separator.content (parts.map content)) :
    (joined.split (some separator)).map content = parts.map content := by
  have content := concatWith_present separator parts
  rw [made, Option.map_some, Option.some.injEq] at content
  have someParts : parts ≠ [] := by
    rintro rfl
    exact someBytes content
  rw [split_eq_iff (concatWith_wellFormed made) nonempty, made]
  exact ⟨iff_of_false someParts someBytes, rfl, separated⟩

/-- Joining undoes splitting, and splitting undoes joining where the parts keep the separator to
its places; without a separator, the tokens are what stands between the white space. -/
theorem split_join (wellFormed : s.WellFormed) :
    (∀ separator : RowString, separator.content ≠ [] →
      (concatWith (some separator) ((s.split (some separator)).map some)).map content =
        some s.content ∧
      (∀ parts : List RowString, (s.split (some separator)).map content = parts.map content ↔
        (parts = [] ↔ s.content = []) ∧
          (concatWith (some separator) (parts.map some)).map content = some s.content ∧
          Separated separator.content (parts.map content)) ∧
      ∀ (parts : List RowString) (joined : RowString),
        concatWith (some separator) (parts.map some) = some joined → joined.content ≠ [] →
          Separated separator.content (parts.map content) →
            (joined.split (some separator)).map content = parts.map content) ∧
    ∀ separator : Option RowString, (∀ given ∈ separator, given.content = []) → s.content ≠ [] →
      let tokens := (s.split separator).map content
      let spaces := s.content.filter (asciiSpaces.contains ·)
      tokens.length = spaces.length + 1 ∧ (∀ token ∈ tokens, ∀ byte ∈ token, byte ∉ asciiSpaces) ∧
        interleave tokens spaces = s.content := by
  refine ⟨?_, ?_⟩
  · intro separator nonempty
    have only := split_eq_iff wellFormed nonempty
    exact ⟨((only _).mp rfl).2.1, only, fun _ _ => split_concatWith nonempty⟩
  · intro separator absent nonempty
    have same : (asciiSpaces.contains ·) = isAsciiSpace := by
      funext byte
      rw [Bool.eq_iff_iff, List.contains_iff_mem, isAsciiSpace_iff]
    rw [same, split_content_of_space wellFormed absent nonempty]
    refine ⟨length_splitOnP _ _, ?_, List.splitOnP_spec _⟩
    intro token member byte inside
    rw [← isAsciiSpace_iff]
    exact not_of_mem_splitOnP member byte inside

theorem split_join_overlapping :
    (ofBytes [0x61, 0x61, 0x61]).WellFormed ∧
      ((ofBytes [0x61, 0x61, 0x61]).split (some (ofBytes [0x61, 0x61]))).map content =
        [[], [0x61]] := by
  have fine := ofBytes_wellFormed [0x61, 0x61, 0x61]
  have separated : Separated [0x61, 0x61] [[], [0x61]] := by
    rw [separated_cons_cons, separated_singleton]
    exact ⟨⟨List.prefix_rfl, fun place _ => Nat.zero_le place⟩, by decide⟩
  obtain ⟨-, only, -⟩ := (split_join fine).1 (ofBytes [0x61, 0x61]) nofun
  have tokens := (only [ofBytes [], ofBytes [0x61]]).mpr ⟨iff_of_false nofun nofun, rfl, separated⟩
  exact ⟨fine, tokens⟩

end RowString

end RowText
