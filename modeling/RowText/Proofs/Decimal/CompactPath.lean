import RowText.Proofs.Decimal.ExactPath

namespace RowText.Decimal

theorem powerOfTen_eq {exponent : Nat} (few : exponent ≤ DecimalType.maxCompactPrecision) :
    powerOfTen exponent = .ok ((10 ^ exponent : Nat) : Int) := by
  have inTable : exponent < 19 := Nat.lt_succ_of_le few
  have entry : powersOfTen[exponent]? = some ((10 ^ exponent : Nat) : Int) := by
    rw [powersOfTen, List.getElem?_map, List.getElem?_range inTable]
    rfl
  simp only [powerOfTen, entry]

theorem pow_le_greatest64 {count : Nat} (few : count ≤ DecimalType.maxCompactPrecision) :
    ((6 * 10 ^ count : Nat) : Int) ≤ IntWidth.w64.greatest := by
  have larger : 10 ^ count ≤ 10 ^ 18 := Nat.pow_le_pow_right (by decide) few
  have fits : ((6 * 10 ^ 18 : Nat) : Int) ≤ IntWidth.w64.greatest := by decide
  omega

theorem compactMantissa_cons (value significant digit : Nat) (rest : List Nat)
    (small : ((value * 10 + digit : Nat) : Int) ≤ IntWidth.w64.greatest)
    (counted : ((significant + 1 : Nat) : Int) ≤ IntWidth.w64.greatest) :
    compactMantissa value significant (digit :: rest) =
      compactMantissa ((value * 10 + digit : Nat) : Int)
        ((if value * 10 + digit = 0 then significant else significant + 1 : Nat) : Int) rest := by
  have shiftedSmall : ((value * 10 : Nat) : Int) ≤ IntWidth.w64.greatest := by omega
  have shifted := IntWidth.exact_of_le "multiply" shiftedSmall
  have added := IntWidth.exact_of_le "add" small
  have next := IntWidth.exact_of_le "add" counted
  push_cast at shifted added next
  rw [compactMantissa, shifted]
  change (do
    let value ← IntWidth.w64.exact "add" ((value : Int) * 10 + digit)
    let significant ← if value = 0 then pure (significant : Int)
      else IntWidth.w64.exact "add" ((significant : Int) + 1)
    compactMantissa value significant rest) = _
  rw [added]
  change (do
    let significant ← if (value : Int) * 10 + digit = 0 then pure (significant : Int)
      else IntWidth.w64.exact "add" ((significant : Int) + 1)
    compactMantissa ((value : Int) * 10 + digit) significant rest) = _
  by_cases nothing : value * 10 + digit = 0
  · have zero : (value : Int) * 10 + digit = 0 := by exact_mod_cast nothing
    rw [if_pos zero, if_pos nothing]
    push_cast
    rfl
  · have nonzero : (value : Int) * 10 + digit ≠ 0 := by exact_mod_cast nothing
    rw [if_neg nonzero, if_neg nothing, next]
    push_cast
    rfl

theorem compactMantissa_of_pos {value : Nat} (significant : Nat) (digits : List Nat)
    (positive : 0 < value)
    (small : ((value * 10 ^ digits.length + magnitude digits : Nat) : Int) ≤
      IntWidth.w64.greatest)
    (counted : ((significant + digits.length : Nat) : Int) ≤ IntWidth.w64.greatest) :
    compactMantissa value significant digits =
      .ok (((value * 10 ^ digits.length + magnitude digits : Nat) : Int),
        ((significant + digits.length : Nat) : Int)) := by
  induction digits generalizing value significant with
  | nil => simp [compactMantissa]
  | cons digit rest ih =>
      have least : value * 10 + digit ≤ (value * 10 + digit) * 10 ^ rest.length + magnitude rest :=
        (Nat.le_mul_of_pos_right _ (Nat.pow_pos (by decide))).trans (Nat.le_add_right _ _)
      have count : significant + (digit :: rest).length = significant + 1 + rest.length := by
        rw [List.length_cons]
        omega
      rw [shift_magnitude_cons] at small ⊢
      rw [count] at counted ⊢
      rw [compactMantissa_cons value significant digit rest (by omega) (by omega),
        if_neg (by omega)]
      exact ih _ (by omega) small counted

theorem compactMantissa_eq (digits : List Nat)
    (small : ((magnitude digits : Nat) : Int) ≤ IntWidth.w64.greatest)
    (counted : ((digits.length : Nat) : Int) ≤ IntWidth.w64.greatest) :
    compactMantissa 0 0 digits =
      .ok ((magnitude digits : Nat), ((digits.dropWhile (· == 0)).length : Nat)) := by
  induction digits with
  | nil => rfl
  | cons digit rest ih =>
      rw [List.length_cons] at counted
      have step := compactMantissa_cons 0 0 digit rest
      by_cases zero : digit = 0
      · subst zero
        rw [magnitude_cons, Nat.zero_mul, Nat.zero_add] at small ⊢
        rw [List.dropWhile_cons_of_pos (by rfl), ← ih small (by omega)]
        exact step (by decide) (by decide)
      · have positive : 0 < digit := Nat.pos_of_ne_zero zero
        rw [magnitude_cons] at small ⊢
        have least : digit ≤ digit * 10 ^ rest.length :=
          Nat.le_mul_of_pos_right _ (Nat.pow_pos (by decide))
        have first := step (by omega) (by decide)
        rw [Nat.zero_mul, Nat.zero_add, if_neg zero] at first
        have others := compactMantissa_of_pos 1 rest positive small (by omega)
        rw [List.dropWhile_cons_of_neg (by simpa using zero), List.length_cons, Nat.add_comm _ 1,
          ← others]
        exact first

section

variable {digit : Nat} {rest : List Nat} {precision : Nat}

theorem compactQuotient_eq {value dropped : Nat}
    (short : value < 10 ^ DecimalType.maxCompactPrecision)
    (few : dropped < DecimalType.maxCompactPrecision) :
    compactQuotient value (dropped + 1) = .ok ((scaled value (.negSucc dropped) : Nat) : Int) := by
  have fits := pow_le_greatest64 (Nat.le_refl _)
  have larger : 10 ^ dropped ≤ 10 ^ DecimalType.maxCompactPrecision :=
    Nat.pow_le_pow_right (by decide) few.le
  have halfSmall : ((5 * 10 ^ dropped : Nat) : Int) ≤ IntWidth.w64.greatest := by omega
  have sumSmall : ((value + 5 * 10 ^ dropped : Nat) : Int) ≤ IntWidth.w64.greatest := by omega
  have tenth : ((10 ^ (dropped + 1) : Nat) : Int) / 10 = ((10 ^ dropped : Nat) : Int) := by
    rw [Nat.pow_succ]
    omega
  have half := IntWidth.exact_of_le "multiply" halfSmall
  have sum := IntWidth.exact_of_le "add" sumSmall
  rw [Nat.cast_mul, Nat.cast_ofNat] at half
  rw [Nat.cast_add, Nat.cast_mul 5, Nat.cast_ofNat] at sum
  rw [compactQuotient, powerOfTen_eq few]
  change (do
    let half ← IntWidth.w64.exact "multiply" (5 * (((10 ^ (dropped + 1) : Nat) : Int) / 10))
    let sum ← IntWidth.w64.exact "add" (value + half)
    return sum / ((10 ^ (dropped + 1) : Nat) : Int)) = _
  rw [tenth, half]
  change (do
    let sum ← IntWidth.w64.exact "add" ((value : Int) + 5 * ((10 ^ dropped : Nat) : Int))
    return sum / ((10 ^ (dropped + 1) : Nat) : Int)) = _
  rw [sum, scaled]
  push_cast
  rfl

theorem compactRescale_widened (positive : 0 < digit) (small : ∀ d ∈ digit :: rest, d < 10)
    (few : precision ≤ DecimalType.maxCompactPrecision) {zeros : Nat}
    (counted : (((digit :: rest).length + zeros : Nat) : Int) ≤ IntWidth.w64.greatest) :
    ∃ outcome, compactRescale (magnitude (digit :: rest) : Nat) ((digit :: rest).length : Nat)
        zeros precision = .ok outcome ∧
      Settled .w64 precision (scaled (magnitude (digit :: rest)) (.ofNat zeros)) outcome := by
  have count := IntWidth.exact_of_le "add" counted
  rw [Nat.cast_add] at count
  unfold compactRescale
  rw [if_pos (Int.natCast_nonneg zeros), count]
  change ∃ outcome, ite ((precision : Int) < (digit :: rest).length + zeros) _ _ = _ ∧ _
  by_cases many : precision < (digit :: rest).length + zeros
  · rw [if_pos (by exact_mod_cast many)]
    refine ⟨none, rfl, Settled.refused ?_⟩
    rw [List.length_cons] at many
    exact pow_le_scaled (pow_le_magnitude positive rest) (by omega)
  · have fits := pow_le_greatest64 few
    have product := scaled_lt (magnitude_lt small) (Nat.not_lt.mp many)
    have held : ((scaled (magnitude (digit :: rest)) (.ofNat zeros) : Nat) : Int) ≤
        IntWidth.w64.greatest := by omega
    have multiplied := IntWidth.exact_of_le "multiply" held
    have inTable : zeros ≤ DecimalType.maxCompactPrecision := by omega
    rw [scaled, Nat.cast_mul] at multiplied
    rw [if_neg (by exact_mod_cast many), Int.toNat_natCast, powerOfTen_eq inTable]
    change ∃ outcome, (do
      return some (← IntWidth.w64.exact "multiply"
        ((magnitude (digit :: rest) : Nat) * ((10 ^ zeros : Nat) : Int)))) = _ ∧ _
    rw [multiplied]
    exact ⟨_, rfl, Settled.held held⟩

theorem compactRescale_rounded {value : Nat}
    (short : value < 10 ^ DecimalType.maxCompactPrecision) (significant : Int) (dropped : Nat) :
    ∃ outcome, compactRescale value significant (.negSucc dropped) precision = .ok outcome ∧
      Settled .w64 precision (scaled value (.negSucc dropped)) outcome := by
  unfold compactRescale
  rw [if_neg (Int.not_le.mpr (Int.negSucc_lt_zero dropped))]
  rw [DecimalType.maxCompactPrecision] at short
  by_cases tiny : 18 ≤ dropped
  · rw [scaled_of_dropped short tiny, if_pos (by omega)]
    exact ⟨_, rfl, Settled.held (by decide)⟩
  · have quotient := compactQuotient_eq short (Nat.not_le.mp tiny)
    have larger : 10 ^ dropped ≤ 10 ^ 18 := Nat.pow_le_pow_right (by decide) (by omega)
    have below : scaled value (.negSucc dropped) ≤ 6 * 10 ^ 18 :=
      (Nat.div_le_self _ _).trans (by omega)
    have fits := pow_le_greatest64 (Nat.le_refl _)
    rw [DecimalType.maxCompactPrecision] at fits
    rw [if_neg (by omega)]
    change ∃ outcome, (do return some (← compactQuotient value (dropped + 1))) = _ ∧ _
    rw [quotient]
    exact ⟨_, rfl, Settled.held (by omega)⟩

theorem compactRescale_settled (positive : 0 < digit) (small : ∀ d ∈ digit :: rest, d < 10)
    (short : (digit :: rest).length ≤ DecimalType.maxCompactPrecision)
    (few : precision ≤ DecimalType.maxCompactPrecision) {change : Int}
    (bounded : change + DecimalType.maxCompactPrecision ≤ IntWidth.w64.greatest) :
    ∃ outcome, compactRescale (magnitude (digit :: rest) : Nat) ((digit :: rest).length : Nat)
        change precision = .ok outcome ∧
      Settled .w64 precision (scaled (magnitude (digit :: rest)) change) outcome := by
  cases change with
  | ofNat zeros =>
      rw [Int.ofNat_eq_natCast] at bounded
      exact compactRescale_widened positive small few (by omega)
  | negSucc dropped =>
      have limited : magnitude (digit :: rest) < 10 ^ DecimalType.maxCompactPrecision :=
        (magnitude_lt small).trans_le (Nat.pow_le_pow_right (by decide) short)
      exact compactRescale_rounded limited _ dropped

end

theorem changeOf_le {n : Numeral} (short : n.spell.length ≤ DecimalType.maxCompactPrecision)
    (type : DecimalType) :
    changeOf n.literal type + DecimalType.maxCompactPrecision ≤ IntWidth.w64.greatest := by
  have power := n.power_lt
  have larger : 10 ^ n.spell.length ≤ 10 ^ 18 := Nat.pow_le_pow_right (by decide) short
  have scale := type.scale.toNat_lt
  have exponent : n.literal.exponent = n.heldPower := rfl
  rw [changeOf, DecimalLiteral.scaleExponent, exponent, Numeral.heldPower]
  simp only [IntWidth.clamp, least_w64, greatest_w64, DecimalType.maxCompactPrecision]
  omega

section

variable {bytes : List UInt8} {type : DecimalType}
  (few : type.precision.toNat ≤ DecimalType.maxCompactPrecision)
  (short : bytes.length ≤ DecimalType.maxCompactPrecision)
include few short

theorem compact_promised :
    (!(type.isCompact && decide (bytes.length ≤ DecimalType.maxCompactPrecision))) = false := by
  simp [DecimalType.isCompact, few, short]

theorem parseCompact_of_not_lex (absent : DecimalLiteral.lex? bytes = none) :
    parseCompact bytes type = .ok none := by
  unfold parseCompact
  simp only [compact_promised few short, absent]
  rfl

theorem parseCompact_rescaled {l : DecimalLiteral} (read : DecimalLiteral.lex? bytes = some l) :
    (magnitude l.digits = 0 ∧ parseCompact bytes type = .ok (some (zero type))) ∨
      ∃ outcome,
        Settled .w64 type.precision.toNat (scaled (magnitude l.digits) (changeOf l type)) outcome ∧
        parseCompact bytes type =
          match outcome with
          | none => pure none
          | some value => ofMagnitude .w64 l.negative value type := by
  obtain ⟨n, spelled, rfl⟩ := DecimalLiteral.spell_of_lex? read
  have small := n.literal_digits_lt
  have spelledShort : n.spell.length ≤ DecimalType.maxCompactPrecision := by
    rw [← spelled]
    exact (trimSpace_length bytes).trans short
  have shortDigits := n.literal_digits_length.trans spelledShort
  have limited : magnitude n.literal.digits < 10 ^ DecimalType.maxCompactPrecision :=
    (magnitude_lt small).trans_le (Nat.pow_le_pow_right (by decide) shortDigits)
  have fits := pow_le_greatest64 (Nat.le_refl _)
  have counts : ((DecimalType.maxCompactPrecision : Nat) : Int) ≤ IntWidth.w64.greatest := by decide
  have mantissa := compactMantissa_eq n.literal.digits (by omega) (by omega)
  unfold parseCompact
  simp only [compact_promised few short, read, mantissa]
  change (_ ∧ ite (((magnitude n.literal.digits : Nat) : Int) = 0) _ _ = _) ∨ ∃ outcome, _ ∧
    ite (((magnitude n.literal.digits : Nat) : Int) = 0) _ _ = _
  rcases dropZeros_cases small with ⟨_, zero⟩ | ⟨digit, rest, stripped, nonzero, fine, same⟩
  · left
    refine ⟨zero, ?_⟩
    rw [zero, Nat.cast_zero, if_pos rfl]
    rfl
  · right
    have strippedShort : (digit :: rest).length ≤ DecimalType.maxCompactPrecision := by
      rw [← stripped]
      exact (List.dropWhile_sublist _).length_le.trans shortDigits
    obtain ⟨outcome, rescaled, settled⟩ :=
      compactRescale_settled nonzero fine strippedShort few (changeOf_le spelledShort type)
    have reached := pow_le_magnitude nonzero rest
    have atLeast : 0 < 10 ^ rest.length := Nat.pow_pos (by decide)
    rw [same] at rescaled settled reached
    rw [changeOf] at rescaled
    refine ⟨outcome, settled, ?_⟩
    rw [if_neg (by omega), stripped]
    dsimp only
    rw [rescaled]
    rfl

end

theorem parseCompact_eq {type : DecimalType} (valid : type.isValid = true)
    (few : type.precision.toNat ≤ DecimalType.maxCompactPrecision) {bytes : List UInt8}
    (short : bytes.length ≤ DecimalType.maxCompactPrecision) :
    parseCompact bytes type = .ok ((DecimalLiteral.lex? bytes).bind (nearest? · type)) := by
  cases read : DecimalLiteral.lex? bytes with
  | none => exact parseCompact_of_not_lex few short read
  | some l =>
      rcases parseCompact_rescaled few short read with ⟨zero, done⟩ | ⟨outcome, settled, done⟩
      · rw [done, Option.bind_some, nearest?_of_zero zero]
      · rw [done]
        exact ofMagnitude_of_settled l.negative (precision_of_valid valid).1 settled

end RowText.Decimal
