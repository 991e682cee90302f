import RowText.Proofs.Decimal.Digits
import Mathlib.Data.Rat.Floor
import Mathlib.Tactic.FieldSimp
import Mathlib.Tactic.Linarith

namespace RowText.Decimal

/-- The integer that is nearest, and of two such the one that is farther from zero. -/
def roundAway (x : ℚ) : ℤ :=
  if x < 0 then -round (-x) else round x

theorem roundAway_signed (negative : Bool) {x : ℚ} (nonneg : 0 ≤ x) :
    roundAway (if negative then -x else x) = if negative then -round x else round x := by
  unfold roundAway
  cases negative with
  | false =>
      rw [if_neg Bool.false_ne_true, if_neg Bool.false_ne_true, if_neg (not_lt.mpr nonneg)]
  | true =>
      rw [if_pos rfl, if_pos rfl]
      rcases nonneg.lt_or_eq with positive | rfl
      · rw [if_pos (neg_lt_zero.mpr positive), neg_neg]
      · simp

/-- The integer nearest to a value times a power of ten, and of two such the greater one. -/
def scaled (value : Nat) : Int → Nat
  | .ofNat zeros => value * 10 ^ zeros
  | .negSucc dropped => (value + 5 * 10 ^ dropped) / 10 ^ (dropped + 1)

theorem scaled_eq_round (value : Nat) (change : Int) :
    (scaled value change : Int) = round ((value : ℚ) * 10 ^ change) := by
  cases change with
  | ofNat zeros =>
      have whole : (value : ℚ) * 10 ^ Int.ofNat zeros = ((value * 10 ^ zeros : Nat) : ℚ) := by
        push_cast
        rw [Int.ofNat_eq_natCast, zpow_natCast]
      rw [whole, round_natCast]
      rfl
  | negSucc dropped =>
      have fraction : (value : ℚ) * 10 ^ Int.negSucc dropped + 1 / 2 =
          ((value + 5 * 10 ^ dropped : Nat) : ℚ) / ((10 ^ (dropped + 1) : Nat) : ℚ) := by
        push_cast
        rw [zpow_negSucc]
        field_simp
        ring
      rw [round_eq, fraction, Rat.floor_natCast_div_natCast]
      rfl

@[simp] theorem scaled_zero (change : Int) : scaled 0 change = 0 := by
  cases change with
  | ofNat zeros => exact Nat.zero_mul _
  | negSucc dropped =>
      apply Nat.div_eq_of_lt
      have positive : 0 < 10 ^ dropped := Nat.pow_pos (by decide)
      omega

theorem scaled_append (kept : List Nat) (digit : Nat) {rest : List Nat}
    (small : ∀ d ∈ digit :: rest, d < 10) :
    scaled (magnitude (kept ++ digit :: rest)) (.negSucc rest.length) =
      magnitude kept + if 5 ≤ digit then 1 else 0 := by
  have below := magnitude_lt small
  have half := half_le_iff digit fun d member => small d (List.mem_cons_of_mem _ member)
  have positive : 0 < 10 ^ (rest.length + 1) := Nat.pow_pos (by decide)
  rw [List.length_cons] at below
  rw [scaled, magnitude_append, List.length_cons, Nat.add_assoc, Nat.mul_comm,
    Nat.mul_add_div positive, Nat.pow_succ] at *
  congr 1
  split
  next carries =>
    rw [← half] at carries
    exact Nat.div_eq_of_lt_le (by omega) (by omega)
  next drops =>
    rw [← half] at drops
    exact Nat.div_eq_of_lt (by omega)

theorem scaled_of_dropped {value count dropped : Nat} (below : value < 10 ^ count)
    (few : count ≤ dropped) : scaled value (.negSucc dropped) = 0 := by
  have larger : 10 ^ count ≤ 10 ^ dropped := Nat.pow_le_pow_right (by decide) few
  apply Nat.div_eq_of_lt
  rw [Nat.pow_succ]
  omega

theorem pow_le_scaled {value count zeros precision : Nat} (reached : 10 ^ count ≤ value)
    (many : precision ≤ count + zeros) : 10 ^ precision ≤ scaled value (.ofNat zeros) :=
  calc
    10 ^ precision ≤ 10 ^ (count + zeros) := Nat.pow_le_pow_right (by decide) many
    _ = 10 ^ count * 10 ^ zeros := Nat.pow_add _ _ _
    _ ≤ value * 10 ^ zeros := Nat.mul_le_mul_right _ reached

theorem scaled_lt {value count zeros precision : Nat} (below : value < 10 ^ count)
    (few : count + zeros ≤ precision) : scaled value (.ofNat zeros) < 10 ^ precision :=
  calc
    value * 10 ^ zeros < 10 ^ count * 10 ^ zeros :=
      Nat.mul_lt_mul_of_pos_right below (Nat.pow_pos (by decide))
    _ = 10 ^ (count + zeros) := (Nat.pow_add _ _ _).symm
    _ ≤ 10 ^ precision := Nat.pow_le_pow_right (by decide) few

end RowText.Decimal
