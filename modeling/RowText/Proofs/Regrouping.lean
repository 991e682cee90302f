import RowText.RowString.Join
import RowText.Proofs.CodePoints
import RowText.Proofs.Join
import RowText.Proofs.WellFormed

namespace RowText

namespace Utf8

/-- Complete pieces, the last of which may have fewer bytes than its first one declares. -/
inductive Grouped : List (List UInt8) → Prop
  | nil : Grouped []
  | cutShort {lead : UInt8} {tail : List UInt8} (short : tail.length + 1 < leadWidth lead) :
      Grouped [lead :: tail]
  | cons {piece : List UInt8} {rest : List (List UInt8)} (complete : Complete piece)
      (grouped : Grouped rest) : Grouped (piece :: rest)

theorem leadWidth_pos (lead : UInt8) : 0 < leadWidth lead := by
  unfold leadWidth
  grind

theorem grouped_chars (bytes : List UInt8) : Grouped (chars bytes) := by
  fun_induction chars bytes with
  | case1 => exact Grouped.nil
  | case2 lead rest ih =>
      have positive := leadWidth_pos lead
      by_cases short : rest.length < leadWidth lead - 1
      · rw [List.take_of_length_le short.le, List.drop_of_length_le short.le, chars]
        exact Grouped.cutShort (by omega)
      · refine Grouped.cons ?_ ih
        rw [Complete, List.length_take]
        omega

theorem chars_flatten_of_grouped {pieces : List (List UInt8)} (grouped : Grouped pieces) :
    chars pieces.flatten = pieces := by
  induction grouped with
  | nil => rw [List.flatten_nil, chars]
  | @cutShort lead tail short =>
      have whole : tail.length ≤ leadWidth lead - 1 := by omega
      rw [List.flatten_singleton, chars, List.take_of_length_le whole, List.drop_of_length_le whole,
        chars]
  | cons complete _ ih => rw [List.flatten_cons, chars_append complete, ih]

theorem chars_eq_iff {bytes : List UInt8} {pieces : List (List UInt8)} :
    chars bytes = pieces ↔ pieces.flatten = bytes ∧ Grouped pieces := by
  constructor
  · rintro rfl
    exact ⟨chars_flatten bytes, grouped_chars bytes⟩
  · rintro ⟨rfl, grouped⟩
    exact chars_flatten_of_grouped grouped

theorem Grouped.left {front back : List (List UInt8)} (grouped : Grouped (front ++ back)) :
    Grouped front := by
  induction front with
  | nil => exact Grouped.nil
  | cons piece front ih =>
      rw [List.cons_append] at grouped
      generalize rest_eq : front ++ back = rest at grouped ih
      cases grouped with
      | cutShort short =>
          rw [(List.append_eq_nil_iff.mp rest_eq).1]
          exact Grouped.cutShort short
      | cons complete grouped => exact Grouped.cons complete (ih grouped)

theorem Grouped.right {front back : List (List UInt8)} (grouped : Grouped (front ++ back)) :
    Grouped back := by
  induction front with
  | nil => exact grouped
  | cons piece front ih =>
      rw [List.cons_append] at grouped
      generalize rest_eq : front ++ back = rest at grouped ih
      cases grouped with
      | cutShort short =>
          rw [(List.append_eq_nil_iff.mp rest_eq).2]
          exact Grouped.nil
      | cons complete grouped => exact ih grouped

theorem chars_flatten_of_infix {bytes : List UInt8} {run : List (List UInt8)}
    (within : run <:+: chars bytes) : chars run.flatten = run := by
  obtain ⟨front, back, joined⟩ := within
  have grouped := grouped_chars bytes
  rw [← joined] at grouped
  exact chars_flatten_of_grouped grouped.left.right

end Utf8

namespace RowString

variable {s : RowString}

theorem chars_substring (wellFormed : s.WellFormed) (start stop : Nat) :
    Utf8.chars (s.substring start stop).content =
      ((Utf8.chars s.content).take stop).drop start := by
  rw [substring_content wellFormed]
  exact Utf8.chars_flatten_of_infix
    ((List.drop_suffix _ _).isInfix.trans (List.take_prefix _ _).isInfix)

theorem substring_substring_content (wellFormed : s.WellFormed) (first last start stop : Nat) :
    ((s.substring first last).substring start stop).content =
      (s.substring (first + start) (min (first + stop) last)).content := by
  rw [substring_content (substring_wellFormed wellFormed first last), chars_substring wellFormed,
    substring_content wellFormed, List.take_drop, List.take_take, List.drop_drop]

theorem numChars_substring (wellFormed : s.WellFormed) (start stop : Nat) :
    (s.substring start stop).numChars = min stop s.numChars - start := by
  rw [numChars_eq, chars_substring wellFormed, List.length_drop, List.length_take, numChars_eq]

theorem concat_substrings (wellFormed : s.WellFormed) (place : Nat) :
    (concat [some (s.substring 0 place), some (s.substring place s.numChars)]).map content =
      some s.content := by
  have front : (s.substring 0 place).content = ((Utf8.chars s.content).take place).flatten :=
    substring_content wellFormed 0 place
  have behind : (s.substring place s.numChars).content =
      ((Utf8.chars s.content).drop place).flatten := by
    rw [substring_content wellFormed, numChars_eq, List.take_length]
  have joined := Utf8.chars_flatten s.content
  rw [← List.take_append_drop place (Utf8.chars s.content), List.flatten_append] at joined
  rw [concat_content]
  simp only [List.map_cons, List.map_nil, Option.map_some, allPresent, front, behind,
    intercalate_cons, List.flatMap_cons, List.flatMap_nil, List.nil_append, List.append_nil, joined]

/-- Cutting at characters composes, on any bytes. -/
theorem substring_of_substring (wellFormed : s.WellFormed) :
    (∀ first last start stop,
      ((s.substring first last).substring start stop).content =
        (s.substring (first + start) (min (first + stop) last)).content) ∧
      (∀ start stop, (s.substring start stop).numChars =
        if start < min stop s.numChars then min stop s.numChars - start else 0) ∧
      ∀ place, ∃ joined,
        concat [some (s.substring 0 place), some (s.substring place s.numChars)] = some joined ∧
          joined.content = s.content := by
  refine ⟨substring_substring_content wellFormed, ?_, ?_⟩
  · intro start stop
    rw [numChars_substring wellFormed]
    split <;> omega
  · intro place
    exact Option.map_eq_some_iff.mp (concat_substrings wellFormed place)

def straddlingMalformed : RowString :=
  view ⟨[⟨[0x20, 0xFF, 0xE4]⟩, ⟨[]⟩, ⟨[0x61, 0x61, 0xF0, 0x61]⟩], 1, 6⟩ none

theorem straddlingMalformed_wellFormed : straddlingMalformed.WellFormed :=
  ⟨by simp, by decide, by simp⟩

theorem straddlingMalformed_chars :
    Utf8.chars straddlingMalformed.content = [[0xFF], [0xE4, 0x61, 0x61], [0xF0, 0x61]] := by
  refine Utf8.chars_eq_iff.mpr ⟨by decide, ?_⟩
  exact .cons (by rfl) (.cons (by rfl) (.cutShort (by decide)))

theorem substring_of_substring_straddlingMalformed :
    straddlingMalformed.WellFormed ∧
      ((straddlingMalformed.substring 1 9).substring 1 2).content =
        (straddlingMalformed.substring 2 3).content ∧
      (straddlingMalformed.substring 1 9).numChars = 2 ∧
      ∃ joined, concat [some (straddlingMalformed.substring 0 2),
          some (straddlingMalformed.substring 2 straddlingMalformed.numChars)] = some joined ∧
        joined.content = straddlingMalformed.content := by
  have ⟨composed, counted, joined⟩ := substring_of_substring straddlingMalformed_wellFormed
  refine ⟨straddlingMalformed_wellFormed, composed 1 9 1 2, ?_, joined 2⟩
  rw [counted, numChars_eq, straddlingMalformed_chars]
  rfl

end RowString

end RowText
