import RowText.RowString.Numeric
import RowText.Proofs.Content
import RowText.Proofs.Decimal.Numeral
import RowText.Proofs.IntWidth

namespace RowText

theorem subtractDigits?_neg {w : IntWidth} (digits : List UInt8) {sum : Nat} (held : sum ≤ w.half) :
    let total := sum * 10 ^ digits.length + Decimal.magnitude (digits.map digitValue)
    subtractDigits? w (-(sum : Int)) digits =
      if total ≤ w.half then some (-(total : Int)) else none := by
  -- The sum only moves away from zero, so the width holds each step if it holds the last one.
  induction digits generalizing sum with
  | nil =>
      intro total
      have same : total = sum := by
        change sum * 10 ^ 0 + Decimal.magnitude [] = sum
        rw [Nat.pow_zero, Nat.mul_one, Decimal.magnitude_nil, Nat.add_zero]
      rw [subtractDigits?, same, if_pos held]
  | cons digit rest ih =>
      intro total
      have regrouped : (sum * 10 + digitValue digit) * 10 ^ rest.length +
          Decimal.magnitude (rest.map digitValue) = total := by
        change _ = sum * 10 ^ (rest.length + 1) + Decimal.magnitude (digitValue digit :: _)
        rw [Decimal.magnitude_cons, List.length_map]
        ring
      have reached : sum * 10 + digitValue digit ≤ total := by
        have scaled := Nat.le_mul_of_pos_right (sum * 10 + digitValue digit)
          (Nat.pow_pos (n := rest.length) (show 0 < 10 by decide))
        omega
      have shifted : -(sum : Int) * 10 = -((sum * 10 : Nat) : Int) := by push_cast; ring
      have subtracted : -((sum * 10 : Nat) : Int) - digitValue digit =
          -((sum * 10 + digitValue digit : Nat) : Int) := by push_cast; ring
      rw [subtractDigits?, shifted, w.fit?_neg]
      by_cases shiftHeld : sum * 10 ≤ w.half
      · rw [if_pos shiftHeld]
        simp only
        rw [subtracted, w.fit?_neg]
        by_cases sumHeld : sum * 10 + digitValue digit ≤ w.half
        · rw [if_pos sumHeld]
          simp only
          rw [ih sumHeld, regrouped]
        · rw [if_neg sumHeld, if_neg (by omega)]
      · rw [if_neg shiftHeld, if_neg (by omega)]

theorem subtractDigits?_zero (w : IntWidth) (digits : List UInt8) :
    let total := Decimal.magnitude (digits.map digitValue)
    subtractDigits? w 0 digits = if total ≤ w.half then some (-(total : Int)) else none := by
  have summed := subtractDigits?_neg (w := w) digits (Nat.zero_le _)
  simpa only [Nat.zero_mul, Nat.zero_add, Nat.cast_zero, Int.neg_zero] using summed

structure IntegerNumeral where
  sign : Sign
  whole : List UInt8
  fraction : Option (List UInt8)
  wholeFine : Digits whole
  fractionFine : Digits (fraction.getD [])
  nonempty : whole ++ Numeral.spellFraction fraction ≠ []

theorem splitPoint_append {whole : List UInt8} (fine : Digits whole)
    (fraction : Option (List UInt8)) :
    splitPoint (whole ++ Numeral.spellFraction fraction) = (whole, fraction.getD []) := by
  have noPoint : ∀ byte ∈ whole, (byte != 0x2E) = true := by
    intro byte member
    rw [bne_iff_ne]
    rintro rfl
    exact absurd (fine _ member) (by decide)
  rw [splitPoint, List.takeWhile_append_of_pos noPoint, List.dropWhile_append_of_pos noPoint]
  cases fraction with
  | none => exact congrArg (·, _) (List.append_nil whole)
  | some digits => exact congrArg (·, _) (List.append_nil whole)

theorem exists_spellFraction (bytes : List UInt8) :
    ∃ fraction, bytes = (splitPoint bytes).1 ++ Numeral.spellFraction fraction ∧
      (splitPoint bytes).2 = fraction.getD [] := by
  have split : (splitPoint bytes).1 ++ bytes.dropWhile (· != 0x2E) = bytes :=
    List.takeWhile_append_dropWhile
  have first := List.head?_dropWhile_not (· != 0x2E) bytes
  change ∃ fraction : Option (List UInt8),
    _ ∧ (bytes.dropWhile (· != 0x2E)).drop 1 = fraction.getD []
  cases behind : bytes.dropWhile (· != 0x2E) with
  | nil =>
      rw [behind] at split
      exact ⟨none, split.symm, rfl⟩
  | cons point digits =>
      rw [behind] at split first
      simp only [List.head?_cons, bne_eq_false_iff_eq] at first
      rw [first] at split
      exact ⟨some digits, split.symm, rfl⟩

namespace IntegerNumeral

def spell (n : IntegerNumeral) : List UInt8 :=
  n.sign.spell ++ (n.whole ++ Numeral.spellFraction n.fraction)

def value (n : IntegerNumeral) : Int :=
  let magnitude : Int := Decimal.magnitude (n.whole.map digitValue)
  if n.sign.isMinus then -magnitude else magnitude

def overflow (n : IntegerNumeral) (w : IntWidth) : Error :=
  if IntWidth.w64.holds n.value then .compute s!"{n.value} overflows {w.name}"
  else .compute s!"{Utf8.decodeText n.spell} overflows {IntWidth.w64.name}"

theorem value_of_minus {n : IntegerNumeral} (minus : n.sign.isMinus = true) :
    n.value = -(Decimal.magnitude (n.whole.map digitValue) : Int) := by
  rw [value, if_pos minus]

theorem value_of_not_minus {n : IntegerNumeral} (notMinus : n.sign.isMinus = false) :
    n.value = Decimal.magnitude (n.whole.map digitValue) := by
  rw [value, notMinus]
  rfl

theorem splitSign_spell (n : IntegerNumeral) :
    splitSign n.spell = (n.sign.isMinus, n.whole ++ Numeral.spellFraction n.fraction) := by
  apply RowText.splitSign_spell
  intro byte member
  cases whole : n.whole with
  | nil =>
      rw [whole] at member
      cases fraction : n.fraction with
      | none =>
          rw [fraction] at member
          cases member
      | some digits =>
          rw [fraction] at member
          cases member
          decide
  | cons digit rest =>
      rw [whole] at member
      cases member
      have fine := n.wholeFine byte (whole ▸ List.mem_cons_self)
      constructor <;> rintro rfl <;> exact absurd fine (by decide)

theorem parseInteger_spell (n : IntegerNumeral) :
    parseInteger n.spell =
      if IntWidth.w64.holds n.value then .ok (some n.value)
      else .error (IntWidth.w64.overflowError (Utf8.decodeText n.spell)) := by
  have fine : ((n.whole ++ n.fraction.getD []).all isDigit) = true := by
    apply List.all_eq_true.mpr
    intro byte member
    exact (List.mem_append.mp member).elim (n.wholeFine byte) (n.fractionFine byte)
  have nonempty : (n.whole ++ Numeral.spellFraction n.fraction).isEmpty = false := by
    rw [List.isEmpty_eq_false_iff]
    exact n.nonempty
  have positive := IntWidth.w64.half_pos
  rw [parseInteger, n.splitSign_spell]
  simp only [nonempty, splitPoint_append n.wholeFine, fine, subtractDigits?_zero,
    Bool.false_eq_true, Bool.not_true, if_false]
  by_cases summed : Decimal.magnitude (n.whole.map digitValue) ≤ IntWidth.w64.half
  · rw [if_pos summed]
    cases minus : n.sign.isMinus with
    | true =>
        have held : IntWidth.w64.holds n.value = true := by
          rw [IntWidth.holds_iff, value_of_minus minus]
          omega
        rw [if_pos held, value_of_minus minus]
        rfl
    | false =>
        simp only [Bool.false_eq_true, if_false, Int.neg_neg, ← value_of_not_minus minus,
          IntWidth.fit?]
        by_cases held : IntWidth.w64.holds n.value = true
        · rw [if_pos held, if_pos held]
        · rw [if_neg held, if_neg held]
  · rw [if_neg summed, if_neg]
    rw [IntWidth.holds_iff, value]
    split <;> omega

theorem exists_of_parseInteger {bytes : List UInt8} (read : parseInteger bytes ≠ .ok none) :
    ∃ n : IntegerNumeral, bytes = n.spell := by
  obtain ⟨sign, signed⟩ := spell_of_splitSign bytes
  obtain ⟨fraction, pointed, behind⟩ := exists_spellFraction (splitSign bytes).2
  unfold parseInteger at read
  simp only at read
  by_cases empty : (splitSign bytes).2.isEmpty = true
  · exact absurd (if_pos empty) read
  rw [if_neg empty] at read
  by_cases fine : ((splitPoint (splitSign bytes).2).1 ++ (splitPoint (splitSign bytes).2).2).all
      isDigit = true
  · have digits : ∀ byte ∈ (splitPoint (splitSign bytes).2).1 ++ fraction.getD [],
        isDigit byte = true := by
      rw [← behind]
      exact List.all_eq_true.mp fine
    refine ⟨⟨sign, _, fraction, fun byte member => digits byte (List.mem_append_left _ member),
      fun byte member => digits byte (List.mem_append_right _ member), ?_⟩, ?_⟩
    · rw [← pointed]
      exact fun nothing => empty (List.isEmpty_iff.mpr nothing)
    · exact signed.trans (congrArg (sign.spell ++ ·) pointed)
  · rw [Bool.eq_false_of_not_eq_true fine] at read
    exact absurd rfl read

theorem digits_zeros (n : IntegerNumeral) (zeros : Nat) :
    Digits (List.replicate zeros 0x30 ++ n.whole) := by
  intro byte member
  rcases List.mem_append.mp member with zero | digit
  · rw [List.eq_of_mem_replicate zero]
    decide
  · exact n.wholeFine byte digit

def withZeros (n : IntegerNumeral) (zeros : Nat) : IntegerNumeral where
  sign := n.sign
  whole := List.replicate zeros 0x30 ++ n.whole
  fraction := n.fraction
  wholeFine := n.digits_zeros zeros
  fractionFine := n.fractionFine
  nonempty := by
    rw [List.append_assoc]
    exact List.append_ne_nil_of_right_ne_nil _ n.nonempty

theorem withZeros_spell (n : IntegerNumeral) (zeros : Nat) :
    (n.withZeros zeros).spell =
      n.sign.spell ++ (List.replicate zeros 0x30 ++
        (n.whole ++ Numeral.spellFraction n.fraction)) := by
  rw [spell, withZeros, List.append_assoc]

@[simp] theorem withZeros_value (n : IntegerNumeral) (zeros : Nat) :
    (n.withZeros zeros).value = n.value := by
  have nothing : Decimal.magnitude ((List.replicate zeros 0x30).map digitValue) = 0 := by
    rw [List.map_replicate, ← Decimal.magnitude_dropZeros]
    simp [digitValue]
  rw [value, withZeros, List.map_append, Decimal.magnitude_append, nothing, Nat.zero_mul,
    Nat.zero_add, value]

end IntegerNumeral

namespace RowString

variable {s : RowString}

theorem toInteger_spell {w : IntWidth} (narrow : w.bits ≤ 64) {n : IntegerNumeral}
    (spelled : s.content = n.spell) :
    s.toInteger w =
      if w.holds n.value then .ok (some n.value) else .error (n.overflow w) := by
  rw [toInteger, parseIntegerAs, bytes_eq, spelled, n.parseInteger_spell, IntegerNumeral.overflow]
  by_cases within : IntWidth.w64.holds n.value = true
  · rw [if_pos within, if_pos within]
    rfl
  · have past : ¬ w.holds n.value = true := fun held => within (IntWidth.holds_w64 narrow held)
    rw [if_neg within, if_neg within, if_neg past]
    rfl

/-- A string is malformed for integers exactly if the grammar does not spell it, however long its
digits are; otherwise its value decides whether it is read or refused, with any leading zeros. -/
theorem toInteger_spec (s : RowString) {w : IntWidth} (narrow : w.bits ≤ 64) :
    (s.toInteger w = .ok none ↔ ∀ n : IntegerNumeral, s.content ≠ n.spell) ∧
      (∀ n : IntegerNumeral, s.content = n.spell →
        s.toInteger w =
          if -2 ^ (w.bits - 1) ≤ n.value ∧ n.value ≤ 2 ^ (w.bits - 1) - 1 then .ok (some n.value)
          else .error (n.overflow w)) ∧
      (∀ (n : IntegerNumeral) (zeros : Nat), -2 ^ (w.bits - 1) ≤ n.value →
        n.value ≤ 2 ^ (w.bits - 1) - 1 →
        s.content = n.sign.spell ++ (List.replicate zeros 0x30 ++
          (n.whole ++ Numeral.spellFraction n.fraction)) →
        s.toInteger w = .ok (some n.value)) := by
  refine ⟨⟨?_, ?_⟩, ?_, ?_⟩
  · intro malformed n spelled
    rw [toInteger_spell narrow spelled] at malformed
    split at malformed <;> cases malformed
  · intro notSpelled
    have malformed : parseInteger s.content = .ok none := by
      by_contra read
      obtain ⟨n, spelled⟩ := IntegerNumeral.exists_of_parseInteger read
      exact notSpelled n spelled
    rw [toInteger, parseIntegerAs, bytes_eq, malformed]
    rfl
  · intro n spelled
    simp only [toInteger_spell narrow spelled, IntWidth.holds_iff_pow]
  · intro n zeros least greatest spelled
    have padded : s.content = (n.withZeros zeros).spell := by rw [spelled, n.withZeros_spell]
    rw [toInteger_spell narrow padded, n.withZeros_value,
      if_pos ((w.holds_iff_pow n.value).mpr ⟨least, greatest⟩)]

def beyondByte : IntegerNumeral where
  sign := .plus
  whole := [0x31, 0x32, 0x38]
  fraction := some [0x39]
  wholeFine := List.all_eq_true.mp rfl
  fractionFine := List.all_eq_true.mp rfl
  nonempty := by decide

theorem toInteger_spec_beyondByte :
    IntWidth.w8.bits ≤ 64 ∧ IntWidth.w16.bits ≤ 64 ∧
      (ofBytes beyondByte.spell).toInteger .w8 = .error (.compute "128 overflows i8") ∧
      (ofBytes beyondByte.spell).toInteger .w16 = .ok (some 128) := by
  obtain ⟨-, narrow, -⟩ := toInteger_spec (ofBytes beyondByte.spell) (w := .w8) (by decide)
  obtain ⟨-, wide, -⟩ := toInteger_spec (ofBytes beyondByte.spell) (w := .w16) (by decide)
  refine ⟨by decide, by decide, ?_, ?_⟩
  · rw [narrow beyondByte rfl]
    decide
  · rw [wide beyondByte rfl]
    decide

end RowString

end RowText
