import RowText.Fault
import Mathlib.Algebra.Order.Ring.Int

namespace RowText.IntWidth

theorem half_pos (w : IntWidth) : 0 < w.half := by
  cases w <;> decide

theorem holds_iff (w : IntWidth) (value : Int) :
    w.holds value = true ↔ -(w.half : Int) ≤ value ∧ value ≤ w.half - 1 := by
  rw [holds, Bool.and_eq_true, decide_eq_true_iff, decide_eq_true_iff, least, greatest]

theorem holds_iff_pow (w : IntWidth) (value : Int) :
    w.holds value = true ↔ -2 ^ (w.bits - 1) ≤ value ∧ value ≤ 2 ^ (w.bits - 1) - 1 := by
  have power : (w.half : Int) = 2 ^ (w.bits - 1) := by
    rw [half_eq, Nat.pow_eq, Nat.cast_pow, Nat.cast_ofNat]
  rw [holds_iff, power]

theorem holds_w32_iff (value : Int) :
    w32.holds value = true ↔ -2 ^ 31 ≤ value ∧ value < 2 ^ 31 := by
  have half : w32.half = 2 ^ 31 := rfl
  rw [holds_iff, half]
  omega

theorem holds_w64_iff (value : Int) :
    w64.holds value = true ↔ -2 ^ 63 ≤ value ∧ value < 2 ^ 63 := by
  have half : w64.half = 2 ^ 63 := rfl
  rw [holds_iff, half]
  omega

theorem holds_w64 {w : IntWidth} (narrow : w.bits ≤ 64) {value : Int}
    (held : w.holds value = true) : w64.holds value = true := by
  have smaller : w.half ≤ w64.half := by
    rw [half_eq, half_eq]
    exact Nat.pow_le_pow_right (by decide) (Nat.sub_le_sub_right narrow 1)
  rw [holds_iff] at held ⊢
  omega

theorem holds_of_le {w : IntWidth} {value : Nat} (small : (value : Int) ≤ w.greatest) :
    w.holds value = true := by
  rw [greatest] at small
  rw [holds_iff]
  omega

theorem fit?_of_le {w : IntWidth} {value : Nat} (small : (value : Int) ≤ w.greatest) :
    w.fit? value = some (value : Int) := by
  rw [fit?, if_pos (holds_of_le small)]

theorem fit?_neg (w : IntWidth) (magnitude : Nat) :
    w.fit? (-(magnitude : Int)) =
      if magnitude ≤ w.half then some (-(magnitude : Int)) else none := by
  have positive := w.half_pos
  have held : w.holds (-(magnitude : Int)) = true ↔ magnitude ≤ w.half := by
    rw [holds_iff]
    omega
  simp only [fit?, held]

theorem exact_of_holds {w : IntWidth} (operation : String) {value : Int}
    (held : w.holds value = true) : w.exact operation value = .ok value := by
  rw [exact, if_pos held]

theorem exact_of_le {w : IntWidth} (operation : String) {value : Nat}
    (small : (value : Int) ≤ w.greatest) : w.exact operation value = .ok (value : Int) :=
  exact_of_holds operation (holds_of_le small)

theorem clamp_of_holds {w : IntWidth} {value : Int} (held : w.holds value = true) :
    w.clamp value = value := by
  rw [holds_iff] at held
  rw [clamp, least, greatest, min_eq_left held.2, max_eq_right held.1]

end RowText.IntWidth
