import RowText.Proofs.Decimal.ExactPath
import Mathlib.Data.Rat.Cast.Order

namespace RowText.Decimal

def exactChange (n : Numeral) (type : DecimalType) : Int :=
  n.power - (n.fraction.getD []).length + type.scale.toNat

theorem changeOf_cases {n : Numeral} (short : n.spell.length < 2 ^ 62) (type : DecimalType) :
    changeOf n.literal type = exactChange n type ∨
      ((DecimalType.maxPrecision : Int) ≤ changeOf n.literal type ∧
        (DecimalType.maxPrecision : Int) ≤ exactChange n type) ∨
      (changeOf n.literal type < -(n.spell.length : Int) ∧
        exactChange n type < -(n.spell.length : Int)) := by
  have scale := type.scale.toNat_lt
  have fraction : (n.fraction.getD []).length ≤ n.spell.length := by
    have digits := n.literal_digits_length
    rw [DecimalLiteral.digits, List.length_map, List.length_append] at digits
    exact (Nat.le_add_left _ _).trans digits
  have exponent : n.literal.exponent = n.heldPower := rfl
  have behind : n.literal.fraction = n.fraction.getD [] := rfl
  rw [changeOf, DecimalLiteral.scaleExponent, exponent, behind, Numeral.heldPower, exactChange]
  simp only [IntWidth.clamp, least_w64, greatest_w64, DecimalType.maxPrecision]
  omega

theorem le_scaled_of_le {value precision : Nat} (positive : 0 < value) {change : Int}
    (many : (precision : Int) ≤ change) : 10 ^ precision ≤ scaled value change := by
  cases change with
  | ofNat zeros =>
      have few : precision ≤ 0 + zeros := by
        rw [Int.ofNat_eq_natCast] at many
        omega
      exact pow_le_scaled (Nat.succ_le_of_lt positive) few
  | negSucc dropped => omega

theorem scaled_of_lt {value count : Nat} (below : value < 10 ^ count) {change : Int}
    (few : change < -(count : Int)) : scaled value change = 0 := by
  cases change with
  | ofNat zeros =>
      rw [Int.ofNat_eq_natCast] at few
      omega
  | negSucc dropped => exact scaled_of_dropped below (by omega)

theorem nearest?_literal {n : Numeral} (short : n.spell.length < 2 ^ 62) {type : DecimalType}
    (valid : type.isValid = true) :
    nearest? n.literal type =
      within? n.sign.isMinus (scaled (magnitude n.literal.digits) (exactChange n type)) type := by
  have ⟨_, few⟩ := precision_of_valid valid
  have sign : n.literal.negative = n.sign.isMinus := rfl
  rw [nearest?, sign]
  rcases changeOf_cases short type with same | ⟨held, exact⟩ | ⟨held, exact⟩
  · rw [same]
  · rcases Nat.eq_zero_or_pos (magnitude n.literal.digits) with zero | positive
    · rw [zero, scaled_zero, scaled_zero]
    · have both (change : Int) (large : (DecimalType.maxPrecision : Int) ≤ change) :
          ¬ scaled (magnitude n.literal.digits) change < 10 ^ type.precision.toNat :=
        Nat.not_lt.mpr (le_scaled_of_le positive ((Int.ofNat_le.mpr few).trans large))
      rw [within?, within?, if_neg (both _ held), if_neg (both _ exact)]
  · have below : magnitude n.literal.digits < 10 ^ n.spell.length :=
      (magnitude_lt n.literal_digits_lt).trans_le
        (Nat.pow_le_pow_right (by decide) n.literal_digits_length)
    rw [scaled_of_lt below held, scaled_of_lt below exact]

theorem value_eq (n : Numeral) (type : DecimalType) :
    n.value * 10 ^ type.scale.toNat =
      if n.sign.isMinus then -((magnitude n.literal.digits : ℚ) * 10 ^ exactChange n type)
      else (magnitude n.literal.digits : ℚ) * 10 ^ exactChange n type := by
  have mantissa : (magnitude n.literal.digits : ℚ) =
      ((magnitude (n.whole.map digitValue) : ℚ) +
        magnitude ((n.fraction.getD []).map digitValue) / 10 ^ (n.fraction.getD []).length) *
        10 ^ (n.fraction.getD []).length := by
    have parts : n.literal.digits = n.whole.map digitValue ++ (n.fraction.getD []).map digitValue :=
      List.map_append
    rw [parts, magnitude_append, List.length_map]
    push_cast
    field_simp
  have power : (10 : ℚ) ^ exactChange n type =
      10 ^ n.power * 10 ^ type.scale.toNat / 10 ^ (n.fraction.getD []).length := by
    rw [exactChange, zpow_add₀ (by norm_num), zpow_sub₀ (by norm_num), zpow_natCast, zpow_natCast]
    ring
  rw [mantissa, power, Numeral.value]
  split
  · field_simp
  · field_simp

theorem within?_eq_roundAway (n : Numeral) (type : DecimalType) :
    within? n.sign.isMinus (scaled (magnitude n.literal.digits) (exactChange n type)) type =
      let rounded := roundAway (n.value * 10 ^ type.scale.toNat)
      if |rounded| < 10 ^ type.precision.toNat then some ⟨rounded, type⟩ else none := by
  have nonneg : 0 ≤ (magnitude n.literal.digits : ℚ) * 10 ^ exactChange n type :=
    mul_nonneg (Nat.cast_nonneg _) (zpow_nonneg (by norm_num) _)
  rw [value_eq, roundAway_signed _ nonneg, ← scaled_eq_round]
  generalize scaled (magnitude n.literal.digits) (exactChange n type) = value
  have fits : |if n.sign.isMinus then -(value : Int) else value| < 10 ^ type.precision.toNat ↔
      value < 10 ^ type.precision.toNat := by
    rw [← natAbs_lt_pow_iff, natAbs_signed]
  simp only [within?, fits]

/-- A text is read as the value of its numeral, scaled and rounded with halves away from zero. -/
theorem parse_exact (literal : String) (type : DecimalType) (valid : type.isValid = true)
    (short : (Utf8.encodeText literal).length < 2 ^ 62) :
    ∃ text, (∀ other, Padded (Utf8.encodeText literal) other ↔ other = text) ∧
      ((∀ n : Numeral, text ≠ n.spell) → parse literal type = .ok none) ∧
      ∀ n : Numeral, text = n.spell → parse literal type = .ok (
        let rounded := roundAway (n.value * 10 ^ type.scale.toNat)
        if |rounded| < 10 ^ type.precision.toNat then some ⟨rounded, type⟩ else none) := by
  refine ⟨trimSpace (Utf8.encodeText literal), padded_iff _, ?_, ?_⟩
  · intro other
    rw [parse, parseBytes_eq valid, DecimalLiteral.lex?_of_not_spell other]
    rfl
  · intro n spelled
    have spelledShort : n.spell.length < 2 ^ 62 := by
      rw [← spelled]
      exact (trimSpace_length _).trans_lt short
    rw [parse, parseBytes_eq valid, DecimalLiteral.lex?_of_spell spelled, Option.bind_some,
      nearest?_literal spelledShort valid, within?_eq_roundAway]

def twelveAndHalf : Numeral where
  sign := .minus
  whole := [0x31]
  fraction := some [0x32, 0x35]
  exponent := some ⟨0x65, .absent, [0x31], Or.inl rfl, by simp [Digits, isDigit], by simp⟩
  wholeFine := by simp [Digits, isDigit]
  fractionFine := by simp [Digits, isDigit]
  nonempty := by simp

theorem parse_exact_twelveAndHalf :
    (⟨2, 0⟩ : DecimalType).isValid = true ∧ (Utf8.encodeText " -1.25e1\t").length < 2 ^ 62 ∧
      parse " -1.25e1\t" ⟨2, 0⟩ = .ok (some ⟨-13, ⟨2, 0⟩⟩) := by
  obtain ⟨text, trimmed, _, numerals⟩ := parse_exact " -1.25e1\t" ⟨2, 0⟩ (by decide) (by decide)
  have spelled : text = twelveAndHalf.spell := by
    rw [← (trimmed _).mp (padded_trimSpace _)]
    decide
  have value : twelveAndHalf.value * 10 ^ (0 : UInt8).toNat = -(25 / 2) := by
    have digits : magnitude twelveAndHalf.literal.digits = 125 := by decide
    have change : exactChange twelveAndHalf ⟨2, 0⟩ = -1 := by decide
    have negative : twelveAndHalf.sign.isMinus = true := rfl
    rw [value_eq twelveAndHalf ⟨2, 0⟩, digits, change, if_pos negative]
    norm_num
  have rounded : roundAway (-(25 / 2)) = -13 := by
    norm_num [roundAway, round_eq]
  refine ⟨by decide, by decide, ?_⟩
  rw [numerals twelveAndHalf spelled]
  simp only [value, rounded]
  rfl

end RowText.Decimal
