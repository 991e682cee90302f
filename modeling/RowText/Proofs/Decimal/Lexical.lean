import RowText.Proofs.Decimal.Numeral
import Mathlib.Tactic.Ring

namespace RowText

namespace Numeral

def heldPower (n : Numeral) : Int :=
  max (-IntWidth.w64.greatest) (min n.power IntWidth.w64.greatest)

def literal (n : Numeral) : DecimalLiteral :=
  ⟨n.sign.isMinus, n.whole, n.fraction.getD [], n.heldPower⟩

theorem digitValue_map_lt {digits : List UInt8} (fine : Digits digits) :
    ∀ digit ∈ digits.map digitValue, digit < 10 := by
  intro digit member
  obtain ⟨byte, inside, rfl⟩ := List.mem_map.mp member
  exact digitValue_lt (fine byte inside)

theorem literal_digits_lt (n : Numeral) : ∀ digit ∈ n.literal.digits, digit < 10 := by
  apply digitValue_map_lt
  intro byte member
  rcases List.mem_append.mp member with whole | fraction
  · exact n.wholeFine byte whole
  · exact n.fractionFine byte fraction

theorem literal_digits_length (n : Numeral) : n.literal.digits.length ≤ n.spell.length := by
  have fraction : (n.fraction.getD []).length ≤ (spellFraction n.fraction).length := by
    cases n.fraction with
    | none => exact Nat.le_refl _
    | some digits => exact Nat.le_succ _
  rw [DecimalLiteral.digits, List.length_map, List.length_append, spell]
  simp only [List.length_append]
  change n.whole.length + (n.fraction.getD []).length ≤ _
  omega

theorem power_lt (n : Numeral) : n.power < ((10 ^ n.spell.length : Nat) : Int) := by
  rw [power]
  cases exponent : n.exponent with
  | none =>
      have positive : 0 < 10 ^ n.spell.length := Nat.pow_pos (by decide)
      exact Int.natCast_pos.mpr positive
  | some e =>
      have length : e.digits.length ≤ n.spell.length := by
        rw [spell, exponent]
        simp only [List.length_append, spellExponent, Exponent.spell, List.length_cons]
        omega
      have below := Decimal.magnitude_lt (digitValue_map_lt e.fine)
      rw [List.length_map] at below
      have larger : 10 ^ e.digits.length ≤ 10 ^ n.spell.length :=
        Nat.pow_le_pow_right (by decide) length
      change e.value < _
      rw [Exponent.value]
      split <;> omega

end Numeral

theorem greatest_w64 : IntWidth.w64.greatest = 9223372036854775807 := rfl

theorem least_w64 : IntWidth.w64.least = -9223372036854775808 := rfl

namespace DecimalLiteral

theorem appendDigits_eq (value : Nat) (digits : List UInt8) :
    appendDigits (min value IntWidth.w64.greatest) digits =
      min ((value * 10 ^ digits.length + Decimal.magnitude (digits.map digitValue) : Nat) : Int)
        IntWidth.w64.greatest := by
  induction digits generalizing value with
  | nil => simp [appendDigits]
  | cons digit rest ih =>
      have step : IntWidth.w64.clamp (IntWidth.w64.clamp
          (min (value : Int) IntWidth.w64.greatest * 10) + digitValue digit) =
          min ((value * 10 + digitValue digit : Nat) : Int) IntWidth.w64.greatest := by
        simp only [IntWidth.clamp, least_w64, greatest_w64]
        omega
      have total : (value * 10 + digitValue digit) * 10 ^ rest.length +
          Decimal.magnitude (rest.map digitValue) =
          value * 10 ^ (rest.length + 1) +
            Decimal.magnitude ((digit :: rest).map digitValue) := by
        rw [List.map_cons, Decimal.magnitude_cons, List.length_map]
        ring
      rw [appendDigits, step, ih, total, List.length_cons]

theorem exponent?_of_spell (e : Exponent) :
    exponent? (e.sign.spell ++ e.digits) =
      some (max (-IntWidth.w64.greatest) (min e.value IntWidth.w64.greatest)) := by
  have unsigned : ∀ byte ∈ e.digits.head?, byte ≠ 0x2B ∧ byte ≠ 0x2D := by
    intro byte member
    have digit := e.fine byte (List.mem_of_mem_head? member)
    constructor
    · rintro rfl
      exact absurd digit (by decide)
    · rintro rfl
      exact absurd digit (by decide)
  have magnitude := appendDigits_eq 0 e.digits
  rw [Nat.zero_mul, Nat.zero_add, Nat.cast_zero, min_eq_left (by decide)] at magnitude
  rw [exponent?, splitSign_spell e.sign unsigned]
  have accepted : (e.digits.isEmpty || !e.digits.all isDigit) = false := by
    rw [Bool.or_eq_false_iff, List.isEmpty_eq_false_iff, Bool.not_eq_false', List.all_eq_true]
    exact ⟨e.nonempty, e.fine⟩
  simp only [accepted, magnitude, Exponent.value, greatest_w64]
  cases e.sign.isMinus with
  | true =>
      simp only [if_true, Bool.false_eq_true, if_false, Option.some.injEq]
      omega
  | false =>
      simp only [Bool.false_eq_true, if_false, Option.some.injEq]
      omega

theorem spell_of_exponent? {bytes : List UInt8} {exponent : Int}
    (read : exponent? bytes = some exponent) {mark : UInt8} (isMark : mark = 0x65 ∨ mark = 0x45) :
    ∃ e : Exponent, e.spell = mark :: bytes := by
  have ⟨sign, signed⟩ := spell_of_splitSign bytes
  unfold exponent? at read
  by_cases refused : ((splitSign bytes).2.isEmpty || !(splitSign bytes).2.all isDigit) = true
  · simp only [refused, if_true] at read
    exact absurd read (by simp)
  · rw [Bool.not_eq_true, Bool.or_eq_false_iff, List.isEmpty_eq_false_iff, Bool.not_eq_false',
      List.all_eq_true] at refused
    exact ⟨⟨mark, sign, _, isMark, refused.2, refused.1⟩, congrArg _ signed.symm⟩

theorem spellExponent_head (exponent : Option Exponent) :
    ∀ byte ∈ (Numeral.spellExponent exponent).head?, byte = 0x65 ∨ byte = 0x45 := by
  intro byte member
  cases exponent with
  | none => cases member
  | some e =>
      cases member
      exact e.isMark

theorem spellFraction_head (fraction : Option (List UInt8)) (exponent : Option Exponent) :
    ∀ byte ∈ (Numeral.spellFraction fraction ++ Numeral.spellExponent exponent).head?,
      byte = 0x2E ∨ byte = 0x65 ∨ byte = 0x45 := by
  intro byte member
  cases fraction with
  | none => exact Or.inr (spellExponent_head exponent byte member)
  | some digits =>
      cases member
      exact Or.inl rfl

theorem splitFraction_of_spell (fraction : Option (List UInt8)) (fine : Digits (fraction.getD []))
    (exponent : Option Exponent) :
    splitFraction (Numeral.spellFraction fraction ++ Numeral.spellExponent exponent) =
      (fraction.getD [], Numeral.spellExponent exponent) := by
  have marked := spellExponent_head exponent
  cases fraction with
  | some digits =>
      apply splitDigits_append fine
      intro byte member
      rcases marked byte member with rfl | rfl <;> rfl
  | none =>
      change splitFraction (Numeral.spellExponent exponent) = ([], Numeral.spellExponent exponent)
      cases rest : Numeral.spellExponent exponent with
      | nil => rfl
      | cons byte tail =>
          rw [rest] at marked
          rcases marked byte rfl with rfl | rfl <;> rfl

theorem spell_of_splitFraction (bytes : List UInt8) :
    ∃ fraction : Option (List UInt8), fraction.getD [] = (splitFraction bytes).1 ∧
      Digits (fraction.getD []) ∧
      bytes = Numeral.spellFraction fraction ++ (splitFraction bytes).2 := by
  unfold splitFraction
  split
  · next tail =>
      have ⟨fine, whole⟩ := splitDigits_spec tail
      exact ⟨some (splitDigits tail).1, rfl, fine, congrArg (0x2E :: ·) whole⟩
  · exact ⟨none, rfl, nofun, rfl⟩

theorem trailingExponent?_of_spell (n : Numeral) :
    trailingExponent? (Numeral.spellExponent n.exponent) = some n.heldPower := by
  unfold Numeral.heldPower Numeral.power
  cases n.exponent with
  | none => rfl
  | some e =>
      have isMark : (e.mark == 0x65 || e.mark == 0x45) = true := by
        rw [Bool.or_eq_true, beq_iff_eq, beq_iff_eq]
        exact e.isMark
      change trailingExponent? (e.mark :: (e.sign.spell ++ e.digits)) = _
      rw [trailingExponent?, if_pos isMark, exponent?_of_spell]
      rfl

theorem spell_of_trailingExponent? {bytes : List UInt8} {exponent : Int}
    (read : trailingExponent? bytes = some exponent) :
    ∃ e : Option Exponent, bytes = Numeral.spellExponent e := by
  cases bytes with
  | nil => exact ⟨none, rfl⟩
  | cons mark tail =>
      rw [trailingExponent?] at read
      split at read
      · next isMark =>
          rw [Bool.or_eq_true, beq_iff_eq, beq_iff_eq] at isMark
          have ⟨e, spelled⟩ := spell_of_exponent? read isMark
          exact ⟨some e, spelled.symm⟩
      · cases read

theorem lex?_of_spell {bytes : List UInt8} {n : Numeral} (spelled : trimSpace bytes = n.spell) :
    lex? bytes = some n.literal := by
  have behind := spellFraction_head n.fraction n.exponent
  have unsigned : ∀ byte ∈ (n.whole ++ (Numeral.spellFraction n.fraction ++
      Numeral.spellExponent n.exponent)).head?, byte ≠ 0x2B ∧ byte ≠ 0x2D := by
    intro byte member
    cases whole : n.whole with
    | nil =>
        rw [whole] at member
        rcases behind byte member with rfl | rfl | rfl <;> decide
    | cons digit rest =>
        rw [whole] at member
        cases member
        have digit := n.wholeFine byte (whole ▸ List.mem_cons_self)
        constructor
        · rintro rfl
          exact absurd digit (by decide)
        · rintro rfl
          exact absurd digit (by decide)
  have stop : ∀ byte ∈ (Numeral.spellFraction n.fraction ++
      Numeral.spellExponent n.exponent).head?, isDigit byte = false := by
    intro byte member
    rcases behind byte member with rfl | rfl | rfl <;> rfl
  have present : (n.whole.isEmpty && (n.fraction.getD []).isEmpty) = false := by
    have nonempty := n.nonempty
    rw [Ne, List.append_eq_nil_iff] at nonempty
    rw [Bool.eq_false_iff, Ne, Bool.and_eq_true, List.isEmpty_iff, List.isEmpty_iff]
    exact nonempty
  rw [lex?, spelled, Numeral.spell, splitSign_spell n.sign unsigned]
  simp only [splitDigits_append n.wholeFine stop, splitFraction_of_spell _ n.fractionFine, present,
    trailingExponent?_of_spell]
  rfl

theorem spell_of_lex? {bytes : List UInt8} {l : DecimalLiteral} (read : lex? bytes = some l) :
    ∃ n : Numeral, trimSpace bytes = n.spell ∧ l = n.literal := by
  have ⟨sign, signed⟩ := spell_of_splitSign (trimSpace bytes)
  have kept := read
  unfold lex? at read
  dsimp only at read
  generalize splitSign (trimSpace bytes) = body at read signed
  have ⟨wholeFine, body_eq⟩ := splitDigits_spec body.2
  generalize splitDigits body.2 = behind at read wholeFine body_eq
  have ⟨fraction, same, fractionFine, behind_eq⟩ := spell_of_splitFraction behind.2
  generalize splitFraction behind.2 = trail at read same behind_eq
  split at read
  · cases read
  · next present =>
      rw [← same, Bool.and_eq_true, List.isEmpty_iff, List.isEmpty_iff,
        ← List.append_eq_nil_iff] at present
      obtain ⟨exponent, trailing, _⟩ := Option.map_eq_some_iff.mp read
      have ⟨e, trail_eq⟩ := spell_of_trailingExponent? trailing
      let n : Numeral := ⟨sign, behind.1, fraction, e, wholeFine, fractionFine, present⟩
      have spelled : trimSpace bytes = n.spell := by
        rw [signed, body_eq, behind_eq, trail_eq]
        rfl
      rw [lex?_of_spell spelled, Option.some.injEq] at kept
      exact ⟨n, spelled, kept.symm⟩

theorem lex?_of_not_spell {bytes : List UInt8} (other : ∀ n : Numeral, trimSpace bytes ≠ n.spell) :
    lex? bytes = none := by
  cases read : lex? bytes with
  | none => rfl
  | some l =>
      have ⟨n, spelled, _⟩ := spell_of_lex? read
      exact absurd spelled (other n)

theorem lex?_of_wide {bytes : List UInt8} {byte : UInt8} (member : byte ∈ bytes)
    (wide : 0x80 ≤ byte) : lex? bytes = none := by
  apply lex?_of_not_spell
  intro n spelled
  obtain ⟨lead, trail, around, spaces⟩ := (padded_trimSpace bytes).around
  rw [around, List.append_assoc, List.mem_append, List.mem_append] at member
  have notSpace : byte ∉ lead ++ trail := by
    intro between
    exact absurd (isAsciiSpace_ascii (spaces byte between)) (UInt8.not_lt.mpr wide)
  rcases member with member | member | member
  · exact notSpace (List.mem_append_left _ member)
  · exact absurd (n.spell_ascii byte (spelled ▸ member)) (UInt8.not_lt.mpr wide)
  · exact notSpace (List.mem_append_right _ member)

end DecimalLiteral

end RowText
