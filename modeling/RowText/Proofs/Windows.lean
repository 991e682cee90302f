import RowText.Proofs.IntWidth
import RowText.Proofs.Regrouping

namespace RowText

def indexedWithin {α : Type} (start stop : Int) (xs : List α) : List α :=
  (xs.zipIdx.filter fun (_, index) => start ≤ index ∧ index < stop).map Prod.fst

theorem zipIdx_within {α : Type} (start stop : Int) (offset : Nat) (xs : List α) :
    ((xs.zipIdx offset).filter fun (_, index) => start ≤ index ∧ index < stop).map Prod.fst =
      (xs.take (stop - offset).toNat).drop (start - offset).toNat := by
  induction xs generalizing offset with
  | nil => simp
  | cons x xs ih =>
      have next := ih (offset + 1)
      rw [List.zipIdx_cons, List.filter_cons]
      by_cases before : (offset : Int) < stop
      · have taken : (stop - offset).toNat = (stop - (offset + 1 : Nat)).toNat + 1 := by omega
        rw [taken, List.take_succ_cons]
        by_cases behind : start ≤ offset
        · have here : (start - offset).toNat = 0 := by omega
          have later : (start - (offset + 1 : Nat)).toNat = 0 := by omega
          rw [later, List.drop_zero] at next
          rw [if_pos (by simp [behind, before]), List.map_cons, next, here, List.drop_zero]
        · have dropped : (start - offset).toNat = (start - (offset + 1 : Nat)).toNat + 1 := by omega
          rw [if_neg (by simp [behind]), next, dropped, List.drop_succ_cons]
      · have here : (stop - offset).toNat = 0 := by omega
        have later : (stop - (offset + 1 : Nat)).toNat = 0 := by omega
        rw [later, List.take_zero, List.drop_nil] at next
        rw [if_neg (by simp [before]), next, here, List.take_zero, List.drop_nil]

theorem indexedWithin_eq {α : Type} (start stop : Int) (xs : List α) :
    indexedWithin start stop xs = (xs.take stop.toNat).drop start.toNat := by
  have counted := zipIdx_within start stop 0 xs
  rwa [Nat.cast_zero, Int.sub_zero, Int.sub_zero] at counted

theorem indexedWithin_eq_nil {α : Type} {start stop : Int} (none : stop ≤ start) (xs : List α) :
    indexedWithin start stop xs = [] := by
  rw [indexedWithin_eq]
  exact drop_take_eq_nil (Or.inl (by omega))

theorem indexedWithin_min {α : Type} (start stop : Int) (xs : List α) :
    indexedWithin start (min stop xs.length) xs = indexedWithin start stop xs := by
  have clipped : (min stop xs.length).toNat = min stop.toNat xs.length := by omega
  rw [indexedWithin_eq, indexedWithin_eq, clipped, ← List.take_take, List.take_length]

namespace RowString

/-- The index of the character at a one-based position, or how far that lies before the first one:
a negative position counts from the end, and zero is like one. -/
def sqlStart (count : Nat) (position : Int) : Int :=
  if 0 < position then position - 1 else if position = 0 then 0 else count + position

theorem sqlStart_bounds {count : Nat} (short : count < 2 ^ 62) {position : Int}
    (narrow : IntWidth.w32.holds position = true) :
    -2 ^ 31 ≤ sqlStart count position ∧ sqlStart count position < 2 ^ 62 := by
  rw [IntWidth.holds_w32_iff] at narrow
  unfold sqlStart
  split
  · omega
  split <;> omega

theorem exact_w64 (operation : String) {value : Int} (low : -2 ^ 63 ≤ value)
    (high : value < 2 ^ 63) : IntWidth.w64.exact operation value = .ok value :=
  IntWidth.exact_of_holds operation ((IntWidth.holds_w64_iff value).mpr ⟨low, high⟩)

theorem sqlWindow_eq {count : Nat} (short : count < 2 ^ 62) {position : Int}
    (narrow : IntWidth.w32.holds position = true) {length : Option Nat}
    (limited : ∀ given ∈ length, IntWidth.w32.holds (given : Int) = true) :
    sqlWindow count position length = .ok (sqlStart count position,
      length.elim (count : Int) (sqlStart count position + ·)) := by
  have near := sqlStart_bounds short narrow
  have counted : IntWidth.w64.clamp count = count := by
    apply IntWidth.clamp_of_holds
    rw [IntWidth.holds_w64_iff]
    omega
  have stopped (start : Int) (bounds : -2 ^ 31 ≤ start ∧ start < 2 ^ 62) :
      (length.elim (pure (start, (count : Int))) fun given => do
        return (start, ← IntWidth.w64.exact "add" (start + given)) : Checked (Int × Int)) =
          .ok (start, length.elim (count : Int) (start + ·)) := by
    cases length with
    | none => rfl
    | some given =>
        have bound := limited given rfl
        rw [IntWidth.holds_w32_iff] at bound
        rw [Option.elim_some, exact_w64 _ (by omega) (by omega)]
        rfl
  rw [IntWidth.holds_w32_iff] at narrow
  unfold sqlWindow
  simp only [counted]
  rcases lt_trichotomy position 0 with negative | rfl | positive
  · have start : sqlStart count position = count + position := by
      rw [sqlStart, if_neg (by omega), if_neg (by omega)]
    rw [start] at near ⊢
    rw [if_neg (by omega), if_pos negative, exact_w64 _ (by omega) (by omega)]
    cases length <;> exact stopped _ near
  · cases length <;> exact stopped _ near
  · have start : sqlStart count position = position - 1 := by rw [sqlStart, if_pos positive]
    rw [start] at near ⊢
    rw [if_pos positive, exact_w64 _ (by omega) (by omega)]
    cases length <;> exact stopped _ near

variable {s : RowString}

theorem window_content (wellFormed : s.WellFormed) {position start stop : Int}
    {length : Option Nat} (named : sqlWindow s.numChars position length = .ok (start, stop)) :
    ∃ part, s.window position length = .ok part ∧
      part.content = (indexedWithin (max start 0) stop (Utf8.chars s.content)).flatten := by
  unfold window windowRange?
  by_cases nothing : s.isEmpty = true
  · rw [isEmpty_eq wellFormed, List.isEmpty_iff] at nothing
    rw [isEmpty_eq wellFormed, nothing, Utf8.chars]
    exact ⟨empty, rfl, rfl⟩
  · rw [if_neg nothing, named]
    refine ⟨_, rfl, ?_⟩
    by_cases none : stop ≤ max start 0
    · rw [if_pos none, indexedWithin_eq_nil none]
      rfl
    · rw [if_neg none, indexedWithin_eq]
      exact substring_content wellFormed _ _

structure IsWindow (s part : RowString) (start stop : Int) : Prop where
  content : part.content = (indexedWithin start stop (Utf8.chars s.content)).flatten
  nothing : stop ≤ start → part.content = []

theorem isWindow_of_content {part : RowString} {start stop : Int}
    (content : part.content = (indexedWithin start stop (Utf8.chars s.content)).flatten) :
    IsWindow s part start (min stop s.numChars) := by
  have clipped : part.content =
      (indexedWithin start (min stop s.numChars) (Utf8.chars s.content)).flatten := by
    rw [content, numChars_eq, indexedWithin_min]
  refine ⟨clipped, fun none => ?_⟩
  rw [clipped, indexedWithin_eq_nil none, List.flatten_nil]

theorem numChars_le (s : RowString) : s.numChars ≤ s.content.length := by
  rw [numChars_eq]
  exact Utf8.chars_length_le s.content

/-- A window of characters is clipped to the string only when both ends are known: a start before
the first character uses up length all the same. It is absent if the length is negative. -/
theorem substringSql_clips (wellFormed : s.WellFormed) (short : s.content.length < 2 ^ 62)
    {position : Int} (narrow : IntWidth.w32.holds position = true) :
    let start := sqlStart s.numChars position
    (∃ part, s.substringSql position none = .ok (some part) ∧
      IsWindow s part (max start 0) s.numChars) ∧
    ∀ length : Int, IntWidth.w32.holds length = true →
      (s.substringSql position (some length) = .ok none ↔ length < 0) ∧
      (0 ≤ length → ∃ part, s.substringSql position (some length) = .ok (some part) ∧
        IsWindow s part (max start 0) (min (start + length) s.numChars)) := by
  intro start
  have few : s.numChars < 2 ^ 62 := Nat.lt_of_le_of_lt (numChars_le s) short
  have windowed (length : Option Nat)
      (limited : ∀ given ∈ length, IntWidth.w32.holds (given : Int) = true) :=
    window_content wellFormed (sqlWindow_eq few narrow limited)
  constructor
  · -- Without a length the window ends where the string does.
    obtain ⟨part, done, content⟩ := windowed none nofun
    refine ⟨part, ?_, ?_⟩
    · rw [substringSql, done]
      rfl
    · have clipped := isWindow_of_content content
      rwa [Option.elim_none, min_self] at clipped
  · intro length limited
    by_cases negative : length < 0
    · have absent : s.substringSql position (some length) = .ok none := by
        rw [substringSql]
        exact if_pos negative
      exact ⟨iff_of_true absent negative, fun present => absurd negative (by omega)⟩
    · obtain ⟨count, rfl⟩ := Int.eq_ofNat_of_zero_le (Int.not_lt.mp negative)
      obtain ⟨part, done, content⟩ := windowed (some count) fun given member => by
        rwa [← Option.some.inj member]
      have present : s.substringSql position (some (count : Int)) = .ok (some part) := by
        rw [substringSql]
        simp only [if_neg negative, Int.toNat_natCast, done]
        rfl
      rw [present]
      exact ⟨iff_of_false nofun negative, fun _ => ⟨part, rfl, isWindow_of_content content⟩⟩

theorem substringSql_clips_straddlingMalformed :
    straddlingMalformed.WellFormed ∧ straddlingMalformed.content.length < 2 ^ 62 ∧
      IntWidth.w32.holds (-4) = true ∧ IntWidth.w32.holds 3 = true ∧
      ∃ part, straddlingMalformed.substringSql (-4) (some 3) = .ok (some part) ∧
        part.content = [0xFF, 0xE4, 0x61, 0x61] := by
  have short : straddlingMalformed.content.length < 2 ^ 62 := by decide
  have ⟨_, limited⟩ := substringSql_clips straddlingMalformed_wellFormed short
    (by decide : IntWidth.w32.holds (-4) = true)
  obtain ⟨part, done, window⟩ := (limited 3 (by decide)).2 (by decide)
  refine ⟨straddlingMalformed_wellFormed, short, by decide, by decide, part, done, ?_⟩
  rw [window.content, numChars_eq, straddlingMalformed_chars]
  rfl

end RowString

end RowText
