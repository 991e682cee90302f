import RowText.Session.Query
import RowText.Proofs.Decimal.Rendering

namespace RowText

theorem DecimalType.create_of_valid {type : DecimalType} (valid : type.isValid = true) :
    create type.precision type.scale = .ok type := by
  rw [isValid, Bool.and_eq_true, Bool.and_eq_true, decide_eq_true_iff, decide_eq_true_iff,
    decide_eq_true_iff] at valid
  obtain ⟨⟨positive, few⟩, ordered⟩ := valid
  have nonzero : type.precision ≠ 0 := by
    intro zero
    rw [zero] at positive
    exact absurd positive (by decide)
  rw [create, if_neg (not_or.mpr ⟨nonzero, Nat.not_lt.mpr few⟩), if_neg (UInt8.not_lt.mpr ordered)]

namespace Decimal

/-- The ways to make a decimal of a type. -/
inductive Made (type : DecimalType) : Decimal → Prop
  | create {unscaled : Int} (held : IntWidth.w128.holds unscaled = true) {d : Decimal}
      (done : create unscaled type = .ok d) : Made type d
  | zero : Made type (zero type)
  | parse {literal : String} {d : Decimal} (done : parse literal type = .ok (some d)) : Made type d
  | cast {s : RowString} {d : Decimal} (done : s.castDecimal type = .ok (some d)) : Made type d
  | answer {s : RowString} {d : Decimal}
      (done : Query.decimalAnswer s type.precision type.scale = .ok (.decimal d)) : Made type d

structure Fits (type : DecimalType) (d : Decimal) : Prop where
  typed : d.type = type
  within : |d.unscaled| < 10 ^ type.precision.toNat

variable {type : DecimalType} {d : Decimal}

theorem fits_of_nearest? {l : DecimalLiteral} (near : nearest? l type = some d) : Fits type d := by
  rw [nearest?, within?, Option.ite_none_right_eq_some] at near
  obtain ⟨small, same⟩ := near
  obtain rfl := Option.some.inj same
  exact ⟨rfl, (natAbs_lt_pow_iff _ _).mp (by rwa [natAbs_signed])⟩

theorem fits_of_parse (valid : type.isValid = true) {literal : String}
    (done : parse literal type = .ok (some d)) : Fits type d := by
  rw [parse, parseBytes_eq valid, Except.ok.injEq, Option.bind_eq_some_iff] at done
  obtain ⟨l, -, near⟩ := done
  exact fits_of_nearest? near

theorem fits_of_cast (valid : type.isValid = true) {s : RowString}
    (done : s.castDecimal type = .ok (some d)) : Fits type d := by
  rw [RowString.castDecimal, cast_eq valid, Except.ok.injEq, Option.bind_eq_some_iff] at done
  obtain ⟨l, -, near⟩ := done
  exact fits_of_nearest? near

theorem castDecimal_of_answer (valid : type.isValid = true) {s : RowString}
    (done : Query.decimalAnswer s type.precision type.scale = .ok (.decimal d)) :
    s.castDecimal type = .ok (some d) := by
  rw [Query.decimalAnswer, DecimalType.create_of_valid valid] at done
  dsimp only at done
  cases read : s.castDecimal type with
  | error fault =>
      rw [read] at done
      cases done
  | ok result =>
      rw [read] at done
      cases result with
      | none => cases done
      | some value =>
          cases done
          rfl

theorem fits_of_made (valid : type.isValid = true) (made : Made type d) : Fits type d := by
  cases made with
  | create held done =>
      obtain ⟨small, rfl⟩ := (create_eq_ok_iff valid).mp done
      exact ⟨rfl, (natAbs_lt_pow_iff _ _).mp small⟩
  | zero => exact ⟨rfl, by simp [zero]⟩
  | parse done => exact fits_of_parse valid done
  | cast done => exact fits_of_cast valid done
  | answer done => exact fits_of_cast valid (castDecimal_of_answer valid done)

theorem isCompact_iff (valid : type.isValid = true) :
    type.isCompact = true ↔ ∀ d, Made type d → IntWidth.w64.holds d.unscaled = true := by
  rw [DecimalType.isCompact, decide_eq_true_iff]
  constructor
  · intro few d made
    have within := (fits_of_made valid made).within
    have larger : (10 : Int) ^ type.precision.toNat ≤ 10 ^ 18 :=
      pow_le_pow_right₀ (by decide) few
    rw [IntWidth.holds_w64_iff]
    rw [abs_lt] at within
    omega
  · intro all
    by_contra many
    -- There are 19 digits at least, which is enough for a number beyond the 64 bits.
    have larger : (10 : Int) ^ 19 ≤ 10 ^ type.precision.toNat :=
      pow_le_pow_right₀ (by decide) (Nat.lt_of_not_le many)
    have fits : |(2 : Int) ^ 63| < 10 ^ type.precision.toNat := lt_of_lt_of_le (by decide) larger
    have made : Made type ⟨2 ^ 63, type⟩ :=
      .create (by decide) ((create_eq_ok_iff valid).mpr ⟨(natAbs_lt_pow_iff _ _).mpr fits, rfl⟩)
    have held := (IntWidth.holds_w64_iff _).mp (all _ made)
    exact absurd held.2 (lt_irrefl _)

/-- A decimal of a valid type is made if and only if its unscaled integer is below the power of ten
of the precision, and however it is made, it is. -/
theorem unscaled_within_precision (valid : type.isValid = true) :
    (∀ unscaled : Int, create unscaled type =
      if |unscaled| < 10 ^ type.precision.toNat then .ok ⟨unscaled, type⟩
      else .error (.invalidArgument s!"unscaled value {unscaled} does not fit {type.render}")) ∧
    (∀ d, Made type d → |d.unscaled| < 10 ^ type.precision.toNat ∧ d.type = type) ∧
    (type.isCompact = true ↔ ∀ d, Made type d → IntWidth.w64.holds d.unscaled = true) := by
  refine ⟨fun unscaled => ?_, fun d made => ?_, isCompact_iff valid⟩
  · simp only [create_eq valid, natAbs_lt_pow_iff]
  · have fits := fits_of_made valid made
    exact ⟨fits.within, fits.typed⟩

theorem unscaled_within_precision_carried :
    (⟨4, 1⟩ : DecimalType).isValid = true ∧ (⟨38, 0⟩ : DecimalType).isValid = true ∧
      parse "99.95" ⟨4, 1⟩ = .ok (some ⟨1000, ⟨4, 1⟩⟩) ∧ |(1000 : Int)| < 10 ^ 4 ∧
      IntWidth.w64.holds 1000 = true ∧
      create IntWidth.w128.least ⟨38, 0⟩ = .error (.invalidArgument
        "unscaled value -170141183460469231731687303715884105728 does not fit decimal(38, 0)") ∧
      ¬ ∀ d, Made ⟨38, 0⟩ d → IntWidth.w64.holds d.unscaled = true := by
  have compact : (⟨4, 1⟩ : DecimalType).isValid = true := by decide
  have wide : (⟨38, 0⟩ : DecimalType).isValid = true := by decide
  have read : parse "99.95" ⟨4, 1⟩ = .ok (some ⟨1000, ⟨4, 1⟩⟩) := by decide +kernel
  have ⟨_, within, held⟩ := unscaled_within_precision compact
  have ⟨created, _, notHeld⟩ := unscaled_within_precision wide
  refine ⟨compact, wide, read, (within _ (.parse read)).1, held.mp rfl _ (.parse read), ?_,
    mt notHeld.mpr (by decide)⟩
  rw [created]
  decide +kernel

end Decimal

end RowText
