import RowText.Proofs.Regrouping

/-!
# Reversal

Reversing moves whole characters, and the reversed bytes fall into characters anew. They fall into
the same ones, in mirrored order, exactly if the last character of the string is complete or stands
alone (`RowString.reverse_mirrors`). Then reversing twice restores the string. Otherwise the
character that was cut short by the end takes up bytes of those that now follow it.
-/

namespace RowText

namespace Utf8

def EndsWhole (bytes : List UInt8) : Prop :=
  ∀ last ∈ (chars bytes).getLast?, Complete last ∨ (chars bytes).length = 1

theorem grouped_of_complete {pieces : List (List UInt8)}
    (complete : ∀ piece ∈ pieces, Complete piece) : Grouped pieces := by
  induction pieces with
  | nil => exact Grouped.nil
  | cons piece rest ih =>
      have ⟨first, others⟩ := List.forall_mem_cons.mp complete
      exact Grouped.cons first (ih others)

theorem Grouped.complete_of_mem {front : List (List UInt8)} {last : List UInt8}
    (grouped : Grouped (front ++ [last])) : ∀ piece ∈ front, Complete piece := by
  induction front with
  | nil => exact nofun
  | cons piece front ih =>
      rw [List.cons_append] at grouped
      generalize rest_eq : front ++ [last] = rest at grouped ih
      cases grouped with
      | cutShort short => exact absurd rest_eq (by simp)
      | cons complete grouped => exact List.forall_mem_cons.mpr ⟨complete, ih grouped⟩

theorem Grouped.reverse_iff {pieces : List (List UInt8)} (grouped : Grouped pieces) :
    Grouped pieces.reverse ↔
      ∀ last ∈ pieces.getLast?, Complete last ∨ pieces.length = 1 := by
  rcases List.eq_nil_or_concat' pieces with rfl | ⟨front, last, rfl⟩
  · exact ⟨fun _ => nofun, fun _ => Grouped.nil⟩
  rw [List.reverse_append, List.reverse_singleton, List.singleton_append, List.getLast?_concat]
  constructor
  · intro mirrored final member
    obtain rfl := Option.some.inj member
    generalize rest_eq : front.reverse = rest at mirrored
    cases mirrored with
    | cutShort short =>
        -- Now the first piece is also the last one, so it stands alone.
        right
        rw [List.reverse_eq_nil_iff.mp rest_eq]
        rfl
    | cons complete _ => exact Or.inl complete
  · intro whole
    rcases whole last rfl with complete | alone
    · apply Grouped.cons complete
      apply grouped_of_complete
      intro piece member
      exact grouped.complete_of_mem piece (List.mem_reverse.mp member)
    · have nothing : front = [] := by simpa using alone
      rw [nothing] at grouped ⊢
      exact grouped

theorem chars_reverseChars_iff (bytes : List UInt8) :
    chars (reverseChars bytes) = (chars bytes).reverse ↔ EndsWhole bytes := by
  rw [EndsWhole, ← (grouped_chars bytes).reverse_iff, chars_eq_iff]
  exact ⟨And.right, fun grouped => ⟨rfl, grouped⟩⟩

theorem reverseChars_reverseChars {bytes : List UInt8} (whole : EndsWhole bytes) :
    reverseChars (reverseChars bytes) = bytes := by
  conv_lhs => rw [reverseChars, (chars_reverseChars_iff bytes).mpr whole, List.reverse_reverse]
  exact chars_flatten bytes

theorem reverseChars_perm (bytes : List UInt8) : (reverseChars bytes).Perm bytes := by
  conv_rhs => rw [← chars_flatten bytes]
  exact (List.reverse_perm _).flatten

theorem endsWhole_of_valid {bytes : List UInt8} (valid : Valid bytes) : EndsWhole bytes := by
  obtain ⟨cs, rfl⟩ := valid
  intro last member
  rw [chars_encode] at member
  obtain ⟨c, -, rfl⟩ := List.mem_map.mp (List.mem_of_mem_getLast? member)
  exact Or.inl (encodeChar_complete c)

end Utf8

namespace RowString

variable {s : RowString}

/-- Reversing mirrors the characters, and is undone by reversing again, where the end of the string
cuts none of several characters short. -/
theorem reverse_mirrors (wellFormed : s.WellFormed) :
    s.reverse.content.Perm s.content ∧
      (Utf8.chars s.reverse.content = (Utf8.chars s.content).reverse ↔
        Utf8.EndsWhole s.content) ∧
      (Utf8.EndsWhole s.content →
        s.reverse.reverse.content = s.content ∧ s.reverse.numChars = s.numChars) ∧
      (Utf8.Valid s.content → Utf8.EndsWhole s.content) := by
  have mirrored := Utf8.chars_reverseChars_iff s.content
  rw [← reverse_content wellFormed] at mirrored
  refine ⟨?_, mirrored, ?_, Utf8.endsWhole_of_valid⟩
  · rw [reverse_content wellFormed]
    exact Utf8.reverseChars_perm s.content
  · intro whole
    constructor
    · rw [reverse_content (reverse_wellFormed s), reverse_content wellFormed,
        Utf8.reverseChars_reverseChars whole]
    · rw [numChars_eq, numChars_eq, mirrored.mpr whole, List.length_reverse]

theorem reverse_mirrors_malformed :
    (straddlingMalformed.substring 0 2).WellFormed ∧
      Utf8.EndsWhole (straddlingMalformed.substring 0 2).content ∧
      (straddlingMalformed.substring 0 2).reverse.reverse.content =
        (straddlingMalformed.substring 0 2).content ∧
      Utf8.chars (straddlingMalformed.substring 0 2).reverse.content =
        [[0xE4, 0x61, 0x61], [0xFF]] := by
  have wellFormed := substring_wellFormed straddlingMalformed_wellFormed 0 2
  have ⟨_, mirrored, undone, _⟩ := reverse_mirrors wellFormed
  have characters : Utf8.chars (straddlingMalformed.substring 0 2).content =
      [[0xFF], [0xE4, 0x61, 0x61]] := by
    rw [chars_substring straddlingMalformed_wellFormed, straddlingMalformed_chars]
    rfl
  have whole : Utf8.EndsWhole (straddlingMalformed.substring 0 2).content := by
    rw [Utf8.EndsWhole, characters]
    rintro last ⟨⟩
    exact Or.inl rfl
  refine ⟨wellFormed, whole, (undone whole).1, ?_⟩
  rw [mirrored.mpr whole, characters]
  rfl

/-- A character that is cut short by the end takes up the one before it when they change places. -/
theorem reverse_cutShort :
    (ofBytes [0x61, 0xF0]).reverse.reverse.content ≠ (ofBytes [0x61, 0xF0]).content ∧
      (ofBytes [0x61, 0xF0]).reverse.numChars ≠ (ofBytes [0x61, 0xF0]).numChars := by
  have apart : Utf8.chars [0x61, 0xF0] = [[0x61], [0xF0]] :=
    Utf8.chars_eq_iff.mpr ⟨rfl, .cons (by rfl) (.cutShort (by decide))⟩
  have joined : Utf8.chars [0xF0, 0x61] = [[0xF0, 0x61]] :=
    Utf8.chars_eq_iff.mpr ⟨rfl, .cutShort (by decide)⟩
  have reversed : (ofBytes [0x61, 0xF0]).reverse.content = [0xF0, 0x61] := by
    rw [reverse_content (ofBytes_wellFormed _), content_ofBytes, Utf8.reverseChars, apart]
    rfl
  constructor
  · rw [reverse_content (reverse_wellFormed _), reversed, Utf8.reverseChars, joined]
    decide
  · rw [numChars_eq, numChars_eq, reversed, joined, content_ofBytes, apart]
    decide

end RowString

end RowText
