import RowText.RowString.Search
import RowText.Proofs.Regrouping
import Mathlib.Data.List.Infix
import Mathlib.Order.Nat

namespace RowText

namespace Utf8

def charStarts (bytes : List UInt8) : List Nat := (charRanges bytes).map Prod.fst

/-- The character of an index starts at an offset, as the first bytes before it declare. -/
inductive CharStart (bytes : List UInt8) : (index offset : Nat) → Prop
  | first (nonempty : bytes ≠ []) : CharStart bytes 0 0
  | next {index offset : Nat} {lead : UInt8} (start : CharStart bytes index offset)
      (here : bytes[offset]? = some lead) (inside : offset + leadWidth lead < bytes.length) :
      CharStart bytes (index + 1) (offset + leadWidth lead)

variable {bytes : List UInt8} {index offset : Nat}

@[simp] theorem charStarts_length (bytes : List UInt8) :
    (charStarts bytes).length = (chars bytes).length := by
  rw [charStarts, List.length_map, charRanges, rangesFrom_length]

theorem charStarts_getElem? (bytes : List UInt8) (index : Nat) :
    (charStarts bytes)[index]? =
      (chars bytes)[index]?.map fun _ => ((chars bytes).take index).flatten.length := by
  rw [charStarts, charRanges, List.getElem?_map, rangesFrom_getElem?, Option.map_map]
  simp only [Function.comp_def, Nat.zero_add]

theorem charStarts_eq_some_iff :
    (charStarts bytes)[index]? = some offset ↔
      index < (chars bytes).length ∧ offset = ((chars bytes).take index).flatten.length := by
  rw [charStarts_getElem?]
  by_cases within : index < (chars bytes).length
  · rw [List.getElem?_eq_getElem within, Option.map_some, Option.some.injEq, and_iff_right within,
      eq_comm]
  · rw [List.getElem?_eq_none (Nat.le_of_not_lt within), Option.map_none]
    exact iff_of_false nofun fun found => within found.1

@[simp] theorem chars_eq_nil_iff : chars bytes = [] ↔ bytes = [] := by
  constructor
  · intro none
    rw [← chars_flatten bytes, none, List.flatten_nil]
  · rintro rfl
    rw [chars]

theorem drop_charStart (start : (charStarts bytes)[index]? = some offset) :
    bytes.drop offset = ((chars bytes).drop index).flatten := by
  obtain ⟨-, rfl⟩ := charStarts_eq_some_iff.mp start
  have whole := chars_flatten bytes
  rw [← List.take_append_drop index (chars bytes), List.flatten_append] at whole
  exact (congrArg (List.drop _) whole).symm.trans List.drop_left

theorem charStarts_succ (start : (charStarts bytes)[index]? = some offset) :
    ∃ lead, bytes[offset]? = some lead ∧
      (charStarts bytes)[index + 1]? =
        if offset + leadWidth lead < bytes.length then some (offset + leadWidth lead) else none := by
  have behind := drop_charStart start
  obtain ⟨within, place⟩ := charStarts_eq_some_iff.mp start
  have regrouped : chars (bytes.drop offset) = (chars bytes).drop index := by
    rw [behind]
    exact chars_flatten_of_infix (List.drop_suffix _ _).isInfix
  cases rest : bytes.drop offset with
  | nil =>
      rw [rest, chars] at regrouped
      exact absurd (List.drop_eq_nil_iff.mp regrouped.symm) (Nat.not_le_of_lt within)
  | cons lead tail =>
      have lengths := congrArg List.length rest
      rw [List.length_drop, List.length_cons] at lengths
      have positive := leadWidth_pos lead
      rw [rest, chars, List.drop_eq_getElem_cons within, List.cons.injEq] at regrouped
      obtain ⟨piece, others⟩ := regrouped
      refine ⟨lead, ?_, ?_⟩
      · rw [← Nat.add_zero offset, ← List.getElem?_drop, rest]
        rfl
      by_cases inside : offset + leadWidth lead < bytes.length
      · have width := congrArg List.length piece
        rw [List.length_cons, List.length_take] at width
        have taken := List.take_succ_eq_append_getElem within
        have more : (chars bytes).drop (index + 1) ≠ [] := by
          rw [← others, ne_eq, chars_eq_nil_iff, List.drop_eq_nil_iff]
          omega
        rw [if_pos inside, charStarts_eq_some_iff, taken, List.flatten_append, List.length_append,
          List.flatten_singleton, ← place, ← width]
        rw [ne_eq, List.drop_eq_nil_iff] at more
        omega
      · have last : (chars bytes).drop (index + 1) = [] := by
          rw [← others, chars_eq_nil_iff, List.drop_eq_nil_iff]
          omega
        rw [if_neg inside, List.getElem?_eq_none_iff, charStarts_length]
        exact List.drop_eq_nil_iff.mp last

theorem charStarts_zero : (charStarts bytes)[0]? = some offset ↔ bytes ≠ [] ∧ offset = 0 := by
  rw [charStarts_eq_some_iff, List.length_pos_iff, ne_eq, chars_eq_nil_iff, List.take_zero]
  rfl

theorem charStarts_eq_some_iff_charStart :
    (charStarts bytes)[index]? = some offset ↔ CharStart bytes index offset := by
  constructor
  · intro start
    induction index generalizing offset with
    | zero =>
        obtain ⟨nonempty, rfl⟩ := charStarts_zero.mp start
        exact .first nonempty
    | succ index ih =>
        obtain ⟨within, -⟩ := List.getElem?_eq_some_iff.mp start
        have before : (charStarts bytes)[index]? = some (charStarts bytes)[index] :=
          List.getElem?_eq_getElem (Nat.lt_of_succ_lt within)
        obtain ⟨lead, here, next⟩ := charStarts_succ before
        rw [start, Option.some_eq_ite_none_right] at next
        obtain ⟨inside, same⟩ := next
        rw [Option.some.inj same]
        exact .next (ih before) here inside
  · intro start
    induction start with
    | first nonempty => exact charStarts_zero.mpr ⟨nonempty, rfl⟩
    | next start here inside ih =>
        obtain ⟨lead, byte, next⟩ := charStarts_succ ih
        obtain rfl := Option.some.inj (here.symm.trans byte)
        rw [next, if_pos inside]

theorem rangesFrom_increasing {pieces : List (List UInt8)} (nonempty : ∀ piece ∈ pieces, piece ≠ [])
    (offset : Nat) : ((rangesFrom offset pieces).map Prod.fst).Pairwise (· < ·) ∧
      ∀ start ∈ (rangesFrom offset pieces).map Prod.fst, offset ≤ start := by
  induction pieces generalizing offset with
  | nil => exact ⟨List.Pairwise.nil, nofun⟩
  | cons piece rest ih =>
      obtain ⟨first, others⟩ := List.forall_mem_cons.mp nonempty
      obtain ⟨increasing, behind⟩ := ih others (offset + piece.length)
      have positive := List.length_pos_iff.mpr first
      have later (start : Nat)
          (member : start ∈ (rangesFrom (offset + piece.length) rest).map Prod.fst) :
          offset < start := by
        have bound := behind start member
        omega
      rw [rangesFrom, List.map_cons, List.pairwise_cons, List.forall_mem_cons]
      exact ⟨⟨later, increasing⟩, Nat.le_refl offset, fun start member => (later start member).le⟩

theorem ne_nil_of_mem_chars {bytes : List UInt8} : ∀ piece ∈ chars bytes, piece ≠ [] := by
  fun_induction chars bytes with
  | case1 =>
      intro piece member
      cases member
  | case2 lead rest ih => exact List.forall_mem_cons.mpr ⟨List.cons_ne_nil _ _, ih⟩

theorem charStarts_increasing (bytes : List UInt8) : (charStarts bytes).Pairwise (· < ·) :=
  (rangesFrom_increasing ne_nil_of_mem_chars 0).1

end Utf8

theorem findIdx?_tails_eq_some_iff {α : Type} {test : List α → Bool} {xs : List α} {index : Nat} :
    xs.tails.findIdx? test = some index ↔
      IsLeast {place | place ≤ xs.length ∧ test (xs.drop place) = true} index := by
  rw [List.findIdx?_eq_some_iff_getElem]
  simp only [List.getElem_tails, List.length_tails]
  constructor
  · rintro ⟨inside, passes, before⟩
    refine ⟨⟨by omega, passes⟩, ?_⟩
    intro place found
    by_contra earlier
    exact before place (Nat.lt_of_not_le earlier) found.2
  · rintro ⟨⟨inside, passes⟩, least⟩
    refine ⟨by omega, passes, ?_⟩
    intro place earlier found
    have late := least ⟨by omega, found⟩
    omega

def firstStanding? (needle bytes : List UInt8) : Option Nat :=
  (Utf8.chars bytes).tails.findIdx? fun rest => needle.isPrefixOf rest.flatten

theorem firstStanding?_cons (needle : List UInt8) (lead : UInt8) (rest : List UInt8) :
    firstStanding? needle (lead :: rest) =
      if needle <+: lead :: rest then some 0
      else (firstStanding? needle (rest.drop (Utf8.leadWidth lead - 1))).map (· + 1) := by
  have whole := Utf8.chars_flatten (lead :: rest)
  rw [Utf8.chars] at whole
  rw [firstStanding?, Utf8.chars, List.tails_cons, List.findIdx?_cons, whole]
  simp only [List.isPrefixOf_iff_prefix]
  rfl

theorem firstStanding?_of_longer {needle bytes : List UInt8}
    (longer : bytes.length < needle.length) : firstStanding? needle bytes = none := by
  rw [firstStanding?, List.findIdx?_eq_none_iff]
  intro rest ending
  rw [Bool.eq_false_iff, ne_eq, List.isPrefixOf_iff_prefix]
  intro standing
  obtain ⟨front, joined⟩ := (List.mem_tails rest _).mp ending
  have size := congrArg (fun pieces => pieces.flatten.length) joined
  simp only [List.flatten_append, List.length_append, Utf8.chars_flatten] at size
  have bound := standing.length_le
  omega

theorem lt_length_of_standing {needle : List UInt8} (nonempty : needle ≠ [])
    {pieces : List (List UInt8)} {index : Nat} (standing : needle <+: (pieces.drop index).flatten) :
    index < pieces.length := by
  by_contra past
  rw [List.drop_eq_nil_of_le (Nat.le_of_not_lt past), List.flatten_nil, List.prefix_nil] at standing
  exact nonempty standing

theorem firstStanding?_eq_some_iff {needle bytes : List UInt8} (nonempty : needle ≠ [])
    {index : Nat} :
    firstStanding? needle bytes = some index ↔
      IsLeast {place | needle <+: ((Utf8.chars bytes).drop place).flatten} index := by
  have inside (place : Nat) (standing : needle <+: ((Utf8.chars bytes).drop place).flatten) :
      place ≤ (Utf8.chars bytes).length := (lt_length_of_standing nonempty standing).le
  rw [firstStanding?, findIdx?_tails_eq_some_iff]
  simp only [List.isPrefixOf_iff_prefix, and_iff_right_of_imp (inside _)]

theorem matchAtChar?_eq {needle : List UInt8} (nonempty : needle ≠ []) (bytes : List UInt8)
    (index : Nat) :
    matchAtChar? needle bytes index = (firstStanding? needle bytes).map (index + ·) := by
  have standing (part : List UInt8) :
      (part.take needle.length == needle) = true ↔ needle <+: part := by
    rw [beq_iff_eq, eq_comm, ← List.prefix_iff_eq_take]
  fun_induction Utf8.chars bytes generalizing index with
  | case1 =>
      have longer : ([] : List UInt8).length < needle.length := List.length_pos_iff.mpr nonempty
      rw [matchAtChar?.eq_def, firstStanding?_of_longer longer]
      dsimp only
      rw [if_pos (by rwa [List.take_nil])]
      rfl
  | case2 lead rest ih =>
      rw [matchAtChar?.eq_def]
      dsimp only
      by_cases longer : (lead :: rest).length < needle.length
      · -- The scan stops here, and no later place has more room.
        rw [if_pos (by rw [List.length_take]; omega), firstStanding?_of_longer longer]
        rfl
      rw [if_neg (by rw [List.length_take]; omega), firstStanding?_cons]
      by_cases here : needle <+: lead :: rest
      · rw [if_pos ((standing _).mpr here), if_pos here]
        rfl
      · rw [if_neg (mt (standing _).mp here), if_neg here, ih, Option.map_map]
        congr 1
        funext place
        exact Nat.add_right_comm index 1 place

theorem skipChars?_eq (count : Nat) (bytes : List UInt8) :
    skipChars? count bytes =
      if count ≤ (Utf8.chars bytes).length then some ((Utf8.chars bytes).drop count).flatten
      else none := by
  induction count generalizing bytes with
  | zero => rw [skipChars?, if_pos (Nat.zero_le _), List.drop_zero, Utf8.chars_flatten]
  | succ count ih =>
      cases bytes with
      | nil => rw [skipChars?, Utf8.chars]; rfl
      | cons lead rest =>
          rw [skipChars?, ih, Utf8.chars, List.length_cons, List.drop_succ_cons]
          simp only [Nat.add_le_add_iff_right]

theorem isLeast_shift {standing : Nat → Prop} {start index : Nat} :
    (∃ place, IsLeast {p | standing (start + p)} place ∧ start + place = index) ↔
      IsLeast {p | start ≤ p ∧ standing p} index := by
  constructor
  · rintro ⟨place, ⟨stands, least⟩, rfl⟩
    refine ⟨⟨Nat.le_add_right _ _, stands⟩, ?_⟩
    rintro other ⟨after, otherStands⟩
    rw [← Nat.add_sub_cancel' after] at otherStands
    have late := least otherStands
    omega
  · rintro ⟨⟨after, stands⟩, least⟩
    refine ⟨index - start, ⟨?_, ?_⟩, Nat.add_sub_cancel' after⟩
    · change standing (start + (index - start))
      rwa [Nat.add_sub_cancel' after]
    · intro other otherStands
      have late := least ⟨Nat.le_add_right start other, otherStands⟩
      omega

theorem eq_none_iff_of_isLeast {found : Option Nat} {standing : Nat → Prop}
    (least : ∀ index, found = some index ↔ IsLeast {p | standing p} index) :
    found = none ↔ ∀ place, ¬ standing place := by
  classical
  constructor
  · intro absent place stands
    have present := (least _).mpr (Nat.isLeast_find ⟨place, stands⟩)
    rw [absent] at present
    cases present
  · intro nowhere
    rw [Option.eq_none_iff_forall_ne_some]
    intro index present
    exact nowhere index ((least index).mp present).1

namespace RowString

variable {s needle : RowString}

def StandsAtChar (needle bytes : List UInt8) (index : Nat) : Prop :=
  ∃ offset, (Utf8.charStarts bytes)[index]? = some offset ∧ needle <+: bytes.drop offset

theorem standsAtChar_iff {needle bytes : List UInt8} {index : Nat} (nonempty : needle ≠ []) :
    StandsAtChar needle bytes index ↔ needle <+: ((Utf8.chars bytes).drop index).flatten := by
  constructor
  · rintro ⟨offset, start, stands⟩
    rwa [← Utf8.drop_charStart start]
  · intro stands
    have start := Utf8.charStarts_eq_some_iff.mpr ⟨lt_length_of_standing nonempty stands, rfl⟩
    exact ⟨_, start, by rwa [Utf8.drop_charStart start]⟩

theorem indexOf_of_nonempty (needleWellFormed : needle.WellFormed) (nonempty : needle.content ≠ [])
    (start index : Nat) :
    s.indexOf needle start = some index ↔
      IsLeast {place | start ≤ place ∧ StandsAtChar needle.content s.content place} index := by
  have present : ¬ needle.isEmpty = true := by
    rwa [isEmpty_eq needleWellFormed, List.isEmpty_iff]
  have regrouped : Utf8.chars ((Utf8.chars s.content).drop start).flatten =
      (Utf8.chars s.content).drop start :=
    Utf8.chars_flatten_of_infix (List.drop_suffix _ _).isInfix
  simp only [standsAtChar_iff nonempty]
  rw [indexOf, bytes_eq, bytes_eq, skipChars?_eq, ← isLeast_shift]
  by_cases inside : start ≤ (Utf8.chars s.content).length
  · rw [if_pos inside]
    dsimp only
    rw [if_neg present, matchAtChar?_eq nonempty, Option.map_eq_some_iff]
    simp only [firstStanding?_eq_some_iff nonempty, regrouped, List.drop_drop]
  · rw [if_neg inside]
    refine iff_of_false nofun ?_
    rintro ⟨place, ⟨stands, -⟩, -⟩
    have within := lt_length_of_standing nonempty stands
    omega

theorem indexOf_of_empty (needleWellFormed : needle.WellFormed) (nothing : needle.content = [])
    (start : Nat) :
    s.indexOf needle start = if start ≤ s.numChars then some start else none := by
  have absent : needle.isEmpty = true := by
    rw [isEmpty_eq needleWellFormed, nothing, List.isEmpty_nil]
  rw [indexOf, bytes_eq, skipChars?_eq, numChars_eq]
  by_cases inside : start ≤ (Utf8.chars s.content).length
  · rw [if_pos inside, if_pos inside]
    exact if_pos absent
  · rw [if_neg inside, if_neg inside]

/-- A needle is found at the first character, at or behind the one the search starts at, from which
on the bytes begin with it, whatever the bytes are; the empty needle is found where the search
starts, up to the end. -/
theorem indexOf_least (needleWellFormed : needle.WellFormed) :
    let starts := Utf8.charStarts s.content
    (starts.length = s.numChars ∧ starts.Pairwise (· < ·) ∧
      ∀ index offset, starts[index]? = some offset ↔ Utf8.CharStart s.content index offset) ∧
    (needle.content ≠ [] → ∀ start,
      (∀ index, s.indexOf needle start = some index ↔
        IsLeast {place | start ≤ place ∧ StandsAtChar needle.content s.content place} index) ∧
      (s.indexOf needle start = none ↔
        ∀ place, start ≤ place → ¬ StandsAtChar needle.content s.content place)) ∧
    (needle.content = [] → ∀ start,
      s.indexOf needle start = if start ≤ s.numChars then some start else none) := by
  intro starts
  refine ⟨⟨?_, Utf8.charStarts_increasing s.content, fun _ _ =>
    Utf8.charStarts_eq_some_iff_charStart⟩, ?_, indexOf_of_empty needleWellFormed⟩
  · rw [Utf8.charStarts_length, numChars_eq]
  · intro nonempty start
    have least := indexOf_of_nonempty needleWellFormed nonempty (s := s) start
    refine ⟨least, ?_⟩
    rw [eq_none_iff_of_isLeast least]
    simp only [not_and]

theorem indexOf_least_straddlingMalformed :
    (ofBytes [0xF0]).WellFormed ∧ (ofBytes [0xF0]).content ≠ [] ∧
      straddlingMalformed.indexOf (ofBytes [0xF0]) 1 = some 2 ∧
      straddlingMalformed.indexOf (ofBytes [0xF0]) 3 = none ∧
      straddlingMalformed.contains (ofBytes [0x61]) = true ∧
      straddlingMalformed.indexOf (ofBytes [0x61]) 0 = none ∧
      straddlingMalformed.indexOf empty 3 = some 3 ∧
      straddlingMalformed.indexOf empty 4 = none := by
  have count : straddlingMalformed.numChars = 3 := by
    rw [numChars_eq, straddlingMalformed_chars]
    rfl
  have ⟨_, found, _⟩ :=
    indexOf_least (s := straddlingMalformed) (ofBytes_wellFormed [0xF0])
  have ⟨_, inside, _⟩ :=
    indexOf_least (s := straddlingMalformed) (ofBytes_wellFormed [0x61])
  have ⟨_, _, nothing⟩ := indexOf_least (s := straddlingMalformed) empty_wellFormed
  have stands {byte : UInt8} {place : Nat} :
      StandsAtChar (ofBytes [byte]).content straddlingMalformed.content place ↔
        [byte] <+: (([[0xFF], [0xE4, 0x61, 0x61], [0xF0, 0x61]] : List (List UInt8)).drop
          place).flatten := by
    rw [standsAtChar_iff (by simp), straddlingMalformed_chars, content_ofBytes]
  refine ⟨ofBytes_wellFormed _, by simp, ((found (by simp) 1).1 2).mpr ⟨⟨by decide, ?_⟩, ?_⟩,
    (found (by simp) 3).2.mpr ?_, by decide, (inside (by simp) 0).2.mpr ?_, ?_, ?_⟩
  · exact stands.mpr (by decide)
  · rintro place ⟨after, standing⟩
    by_contra earlier
    obtain rfl : place = 1 := by omega
    exact absurd (stands.mp standing) (by decide)
  · intro place after standing
    have within : place < 3 := lt_length_of_standing (by simp) (stands.mp standing)
    omega
  · intro place _ standing
    have within : place < 3 := lt_length_of_standing (by simp) (stands.mp standing)
    obtain rfl | rfl | rfl : place = 0 ∨ place = 1 ∨ place = 2 := by omega
    all_goals exact absurd (stands.mp standing) (by decide)
  · rw [nothing rfl, count]
    rfl
  · rw [nothing rfl, count]
    rfl

end RowString

end RowText
