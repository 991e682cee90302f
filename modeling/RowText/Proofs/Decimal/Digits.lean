import RowText.Decimal.Parse
import Mathlib.Data.Nat.Digits.Lemmas

namespace RowText.Decimal

def magnitude (digits : List Nat) : Nat := Nat.ofDigits 10 digits.reverse

@[simp] theorem magnitude_nil : magnitude [] = 0 := rfl

theorem magnitude_append (xs ys : List Nat) :
    magnitude (xs ++ ys) = magnitude xs * 10 ^ ys.length + magnitude ys := by
  rw [magnitude, List.reverse_append, Nat.ofDigits_append, List.length_reverse, Nat.add_comm,
    Nat.mul_comm, magnitude, magnitude]

@[simp] theorem magnitude_singleton (digit : Nat) : magnitude [digit] = digit :=
  Nat.ofDigits_singleton

theorem magnitude_cons (digit : Nat) (rest : List Nat) :
    magnitude (digit :: rest) = digit * 10 ^ rest.length + magnitude rest := by
  rw [← List.singleton_append, magnitude_append, magnitude_singleton]

theorem shift_magnitude_cons (value digit : Nat) (rest : List Nat) :
    value * 10 ^ (digit :: rest).length + magnitude (digit :: rest) =
      (value * 10 + digit) * 10 ^ rest.length + magnitude rest := by
  rw [magnitude_cons, List.length_cons]
  ring

theorem magnitude_lt {digits : List Nat} (small : ∀ digit ∈ digits, digit < 10) :
    magnitude digits < 10 ^ digits.length := by
  rw [magnitude, ← List.length_reverse]
  apply Nat.ofDigits_lt_base_pow_length (by decide)
  intro digit member
  exact small digit (List.mem_reverse.mp member)

theorem pow_le_magnitude {digit : Nat} (positive : 0 < digit) (rest : List Nat) :
    10 ^ rest.length ≤ magnitude (digit :: rest) := by
  rw [magnitude_cons]
  have scaled : 1 * 10 ^ rest.length ≤ digit * 10 ^ rest.length := Nat.mul_le_mul_right _ positive
  omega

@[simp] theorem magnitude_dropZeros (digits : List Nat) :
    magnitude (digits.dropWhile (· == 0)) = magnitude digits := by
  induction digits with
  | nil => rfl
  | cons digit rest ih =>
      by_cases zero : digit = 0
      · rw [zero, List.dropWhile_cons_of_pos (by rfl), ih, magnitude_cons, Nat.zero_mul,
          Nat.zero_add]
      · rw [List.dropWhile_cons_of_neg (by simpa using zero)]

theorem dropZeros_cases {digits : List Nat} (small : ∀ digit ∈ digits, digit < 10) :
    (digits.dropWhile (· == 0) = [] ∧ magnitude digits = 0) ∨
      ∃ digit rest, digits.dropWhile (· == 0) = digit :: rest ∧ 0 < digit ∧
        (∀ d ∈ digit :: rest, d < 10) ∧ magnitude (digit :: rest) = magnitude digits := by
  have same := magnitude_dropZeros digits
  have first := List.head?_dropWhile_not (· == 0) digits
  cases stripped : digits.dropWhile (· == 0) with
  | nil =>
      rw [stripped] at same
      exact Or.inl ⟨rfl, same.symm⟩
  | cons digit rest =>
      rw [stripped] at same first
      simp only [List.head?_cons, beq_eq_false_iff_ne] at first
      refine Or.inr ⟨digit, rest, rfl, Nat.pos_of_ne_zero first, ?_, same⟩
      intro d member
      exact small d ((List.dropWhile_sublist _).mem (stripped ▸ member))

theorem exists_dropped {digits : List Nat} {dropped : Nat} (enough : dropped < digits.length) :
    ∃ kept next others, digits.take (digits.length - (dropped + 1)) = kept ∧
      digits.drop (digits.length - (dropped + 1)) = next :: others ∧
      digits = kept ++ next :: others ∧ others.length = dropped := by
  obtain ⟨next, others, behind⟩ : ∃ next others,
      digits.drop (digits.length - (dropped + 1)) = next :: others := by
    apply List.exists_cons_of_length_pos
    rw [List.length_drop]
    omega
  refine ⟨_, next, others, rfl, behind, ?_, ?_⟩
  · rw [← behind, List.take_append_drop]
  · have length := congrArg List.length behind
    rw [List.length_drop, List.length_cons] at length
    omega

theorem half_le_iff (digit : Nat) {rest : List Nat} (small : ∀ d ∈ rest, d < 10) :
    5 * 10 ^ rest.length ≤ magnitude (digit :: rest) ↔ 5 ≤ digit := by
  have below := magnitude_lt small
  rw [magnitude_cons]
  constructor
  · intro half
    by_contra less
    have scaled : digit * 10 ^ rest.length ≤ 4 * 10 ^ rest.length :=
      Nat.mul_le_mul_right _ (by omega)
    omega
  · intro half
    have scaled : 5 * 10 ^ rest.length ≤ digit * 10 ^ rest.length := Nat.mul_le_mul_right _ half
    omega

theorem numDigits_le_iff (value precision : Nat) :
    numDigits value ≤ precision + 1 ↔ value < 10 ^ (precision + 1) := by
  induction precision generalizing value with
  | zero =>
      rw [numDigits]
      split
      · omega
      · have positive : 0 < numDigits (value / 10) := by
          rw [numDigits]
          split <;> omega
        omega
  | succ precision ih =>
      rw [numDigits]
      split
      next single =>
        have larger : 10 ^ 1 ≤ 10 ^ (precision + 1 + 1) :=
          Nat.pow_le_pow_right (by decide) (by omega)
        omega
      next several =>
        rw [Nat.add_le_add_iff_right, ih, Nat.div_lt_iff_lt_mul (by decide), ← Nat.pow_succ]

theorem fit?_eq (unscaled : Int) {type : DecimalType} (positive : 0 < type.precision.toNat) :
    fit? unscaled type =
      if unscaled.natAbs < 10 ^ type.precision.toNat then some ⟨unscaled, type⟩ else none := by
  have fits := numDigits_le_iff unscaled.natAbs (type.precision.toNat - 1)
  rw [Nat.sub_add_cancel positive] at fits
  unfold fit?
  simp only [fits]

end RowText.Decimal
