import RowText.Json.Read
import Mathlib.Data.Nat.Digits.Defs

namespace RowText.Json

theorem hexValue?_digitChar {digit : Nat} (small : digit < 16) :
    hexValue? (Nat.digitChar digit) = some digit := by
  decide +revert

theorem hexUnit?_control {code : Nat} (control : code < 0x20) :
    hexUnit? '0' '0' (Nat.digitChar (code / 16)) (Nat.digitChar (code % 16)) = some code := by
  have zero : hexValue? '0' = some 0 := by decide
  rw [hexUnit?, zero, hexValue?_digitChar (by omega), hexValue?_digitChar (by omega)]
  simp only [Option.bind_eq_bind, Option.bind_some, Option.pure_def, Option.some.injEq]
  omega

theorem escapeChar_cases (c : Char) :
    (∃ mark, escapeChar c = ['\\', mark] ∧ shortEscape? mark = some c.toNat) ∨
      (∃ x y, escapeChar c = ['\\', 'u', '0', '0', x, y] ∧
        hexUnit? '0' '0' x y = some c.toNat) ∨
      (escapeChar c = [c] ∧ c ≠ '"' ∧ c ≠ '\\' ∧ ¬ c < ' ') := by
  by_cases short : c ∈ ['"', '\\', '\x08', '\x0C', '\n', '\r', '\t']
  · left
    simp only [List.mem_cons, List.not_mem_nil, or_false] at short
    rcases short with rfl | rfl | rfl | rfl | rfl | rfl | rfl
    all_goals exact ⟨_, rfl, rfl⟩
  · simp only [List.mem_cons, List.not_mem_nil, or_false, not_or] at short
    right
    by_cases control : c < ' '
    · left
      refine ⟨_, _, ?_, hexUnit?_control control⟩
      simp [escapeChar, short, control]
    · right
      refine ⟨?_, short.1, short.2.1, control⟩
      simp [escapeChar, short, control]

theorem readCodes?_short {mark : Char} {code : Nat} (escape : shortEscape? mark = some code)
    (rest : List Char) :
    readCodes? ('\\' :: mark :: rest) =
      (readCodes? rest).map fun (codes, rest) => (code :: codes, rest) := by
  have other : mark ≠ 'u' := by
    rintro rfl
    cases escape
  rw [readCodes?.eq_4 _ _ fun _ _ _ _ _ same => absurd same other, escape]
  cases readCodes? rest <;> rfl

theorem readCodes?_unit {x y z w : Char} {code : Nat} (unit : hexUnit? x y z w = some code)
    (rest : List Char) :
    readCodes? ('\\' :: 'u' :: x :: y :: z :: w :: rest) =
      (readCodes? rest).map fun (codes, rest) => (code :: codes, rest) := by
  rw [readCodes?, unit]
  cases readCodes? rest <;> rfl

theorem readCodes?_plain {c : Char} (quote : c ≠ '"') (backslash : c ≠ '\\') (control : ¬ c < ' ')
    (rest : List Char) :
    readCodes? (c :: rest) =
      (readCodes? rest).map fun (codes, rest) => (c.toNat :: codes, rest) := by
  rw [readCodes?, if_neg (not_or.mpr ⟨control, backslash⟩)]
  · cases readCodes? rest <;> rfl
  all_goals simp [quote, backslash]

theorem readCodes?_escapeChar (c : Char) (rest : List Char) :
    readCodes? (escapeChar c ++ rest) =
      (readCodes? rest).map fun (codes, rest) => (c.toNat :: codes, rest) := by
  rcases escapeChar_cases c with
    ⟨mark, shape, escape⟩ | ⟨x, y, shape, unit⟩ | ⟨shape, quote, backslash, control⟩
  · rw [shape]
    exact readCodes?_short escape rest
  · rw [shape]
    exact readCodes?_unit unit rest
  · rw [shape]
    exact readCodes?_plain quote backslash control rest

theorem readCodes?_escaped (text rest : List Char) :
    readCodes? (text.flatMap escapeChar ++ '"' :: rest) = some (text.map Char.toNat, rest) := by
  induction text with
  | nil => rw [List.flatMap_nil, List.nil_append, readCodes?, List.map_nil]
  | cons c text ih =>
      rw [List.flatMap_cons, List.append_assoc, readCodes?_escapeChar, ih]
      rfl

theorem not_surrogate (c : Char) :
    isHighSurrogate c.toNat = false ∧ isLowSurrogate c.toNat = false := by
  have scalar : c.toNat < 0xD800 ∨ 0xDFFF < c.toNat ∧ c.toNat < 0x110000 := c.valid
  simp only [isHighSurrogate, isLowSurrogate, Bool.and_eq_false_iff, decide_eq_false_iff_not]
  omega

theorem joinCodes?_cons (c : Char) (codes : List Nat) :
    joinCodes? (c.toNat :: codes) = (joinCodes? codes).map (c :: ·) := by
  obtain ⟨high, low⟩ := not_surrogate c
  cases codes with
  | nil => simp [joinCodes?, high, low]
  | cons next rest => simp [joinCodes?, high, low]

@[simp] theorem joinCodes?_map_toNat (text : List Char) :
    joinCodes? (text.map Char.toNat) = some text := by
  induction text with
  | nil => rw [List.map_nil, joinCodes?]
  | cons c text ih => rw [List.map_cons, joinCodes?_cons, ih, Option.map_some]

theorem readString?_written (text rest : List Char) :
    readString? (text.flatMap escapeChar ++ '"' :: rest) = some (some text, rest) := by
  rw [readString?, readCodes?_escaped, Option.map_some]
  dsimp only
  rw [joinCodes?_map_toNat]

end RowText.Json
