import RowText.Json.Document
import RowText.Proofs.Decimal.FastPath

/-!
# Types that nothing has checked

A type that comes from a document may admit more digits than 128 bits hold. Reading a decimal of it
still refuses each product and each sum that leaves the range, except for the carry of the digits
that are dropped. So reading abandons the call if and only if that carry leaves the range
(`error_iff_carriesOut`).
-/

namespace RowText.Decimal

def Carries (precision : Nat) (x : ℚ) : Prop :=
  DecimalType.maxPrecision < precision ∧ x < IntWidth.w128.half ∧
    round x = (IntWidth.w128.half : ℤ)

/-- The bytes spell a literal whose digits, scaled for the type, carry out of the 128 bits. -/
def CarriesOut (bytes : List UInt8) (type : DecimalType) : Prop :=
  ∃ l, DecimalLiteral.lex? bytes = some l ∧
    Carries type.precision.toNat ((magnitude l.digits : ℚ) * 10 ^ changeOf l type)

inductive Attempt (precision : Nat) (x : ℚ) : Checked (Option Int) → Prop
  | refused (fine : ¬ Carries precision x) : Attempt precision x (.ok none)
  | held {value : Nat} (small : (value : Int) ≤ IntWidth.w128.greatest)
      (fine : ¬ Carries precision x) : Attempt precision x (.ok (some value))
  | carried (out : Carries precision x) : Attempt precision x (.error (.overflow "add"))

/-! ## Digits in 128 bits -/

theorem le_of_fit? {w : IntWidth} {value : Nat} {result : Int}
    (fits : w.fit? (value : Int) = some result) :
    result = value ∧ (value : Int) ≤ w.greatest := by
  unfold IntWidth.fit? at fits
  split at fits
  next holds =>
    rw [IntWidth.holds, Bool.and_eq_true, decide_eq_true_iff, decide_eq_true_iff] at holds
    exact ⟨(Option.some.inj fits).symm, holds.2⟩
  next => cases fits

theorem le_of_accumulate? {value : Nat} {digits : List Nat} {result : Int}
    (small : (value : Int) ≤ IntWidth.w128.greatest)
    (summed : accumulate? value digits = some result) :
    ((value * 10 ^ digits.length + magnitude digits : Nat) : Int) ≤ IntWidth.w128.greatest := by
  induction digits generalizing value with
  | nil => simpa using small
  | cons digit rest ih =>
      unfold accumulate? at summed
      split at summed
      next => cases summed
      next shifted shift =>
        rw [← Nat.cast_ofNat, ← Nat.cast_mul] at shift
        obtain ⟨rfl, _⟩ := le_of_fit? shift
        split at summed
        next => cases summed
        next added sum =>
          rw [← Nat.cast_add] at sum
          obtain ⟨rfl, held⟩ := le_of_fit? sum
          rw [shift_magnitude_cons]
          exact ih held summed

theorem accumulate?_cases (digits : List Nat) :
    (accumulate? 0 digits = none ∧ IntWidth.w128.half ≤ magnitude digits) ∨
      (accumulate? 0 digits = some (magnitude digits : Int) ∧
        magnitude digits < IntWidth.w128.half) := by
  have range : IntWidth.w128.greatest = (IntWidth.w128.half : Int) - 1 := rfl
  cases summed : accumulate? 0 digits with
  | none =>
      left
      refine ⟨rfl, ?_⟩
      by_contra less
      rw [accumulate?_zero (by omega)] at summed
      cases summed
  | some result =>
      right
      have small : ((0 * 10 ^ digits.length + magnitude digits : Nat) : Int) ≤
          IntWidth.w128.greatest := le_of_accumulate? (by decide) summed
      rw [Nat.zero_mul, Nat.zero_add] at small
      rw [accumulate?_zero small] at summed
      exact ⟨summed.symm, by omega⟩

theorem appendZeros?_held {value zeros : Nat} {result : Int}
    (small : (value : Int) ≤ IntWidth.w128.greatest)
    (widened : appendZeros? value zeros = some result) :
    ∃ held : Nat, result = held ∧ (held : Int) ≤ IntWidth.w128.greatest := by
  induction zeros generalizing value with
  | zero => exact ⟨value, (Option.some.inj widened).symm, small⟩
  | succ zeros ih =>
      unfold appendZeros? at widened
      split at widened
      next => cases widened
      next shifted shift =>
        rw [← Nat.cast_ofNat, ← Nat.cast_mul] at shift
        obtain ⟨rfl, held⟩ := le_of_fit? shift
        exact ih held widened

/-! ## Rescaling -/

theorem floor_append (kept : List Nat) (digit : Nat) {rest : List Nat}
    (small : ∀ d ∈ digit :: rest, d < 10) :
    ⌊(magnitude (kept ++ digit :: rest) : ℚ) * 10 ^ Int.negSucc rest.length⌋ = magnitude kept := by
  have below := magnitude_lt small
  have fraction : (magnitude (kept ++ digit :: rest) : ℚ) * 10 ^ Int.negSucc rest.length =
      (magnitude (kept ++ digit :: rest) : ℚ) / ((10 ^ (digit :: rest).length : Nat) : ℚ) := by
    rw [zpow_negSucc, div_eq_mul_inv]
    push_cast
    rfl
  have positive : 0 < 10 ^ (digit :: rest).length := Nat.pow_pos (by decide)
  rw [fraction, Rat.floor_natCast_div_natCast, ← Int.natCast_ediv, magnitude_append, Nat.mul_comm,
    Nat.mul_add_div positive, Nat.div_eq_of_lt below, Nat.add_zero]

theorem half_le_pow_iff (precision : Nat) :
    IntWidth.w128.half ≤ 10 ^ precision ↔ DecimalType.maxPrecision < precision := by
  constructor
  · intro large
    by_contra few
    have range : IntWidth.w128.greatest = (IntWidth.w128.half : Int) - 1 := rfl
    have fits := pow_le_greatest (Nat.not_lt.mp few)
    omega
  · intro beyond
    have fits : IntWidth.w128.half ≤ 10 ^ (DecimalType.maxPrecision + 1) := by decide
    exact fits.trans (Nat.pow_le_pow_right (by decide) beyond)

theorem exact_carry {value : Nat} (held : value < IntWidth.w128.half) (carry : Prop)
    [Decidable carry] :
    IntWidth.w128.exact "add" (value + if carry then 1 else 0) =
      if value + (if carry then 1 else 0) = IntWidth.w128.half then .error (.overflow "add")
      else .ok ((value + if carry then 1 else 0 : Nat) : Int) := by
  have range : IntWidth.w128.greatest = (IntWidth.w128.half : Int) - 1 := rfl
  have sum : (value : Int) + (if carry then 1 else 0) =
      ((value + if carry then 1 else 0 : Nat) : Int) := by
    push_cast
    rfl
  rw [sum]
  by_cases out : value + (if carry then 1 else 0) = IntWidth.w128.half
  · rw [if_pos out, out]
    decide
  · rw [if_neg out]
    apply IntWidth.exact_of_le
    split_ifs at out ⊢ <;> omega

theorem carries_append (precision : Nat) (kept : List Nat) (digit : Nat) {rest : List Nat}
    (small : ∀ d ∈ digit :: rest, d < 10) :
    Carries precision ((magnitude (kept ++ digit :: rest) : ℚ) * 10 ^ Int.negSucc rest.length) ↔
      DecimalType.maxPrecision < precision ∧ magnitude kept < IntWidth.w128.half ∧
        magnitude kept + (if 5 ≤ digit then 1 else 0) = IntWidth.w128.half := by
  have below := Int.floor_lt (z := (IntWidth.w128.half : Int))
    (a := (magnitude (kept ++ digit :: rest) : ℚ) * 10 ^ Int.negSucc rest.length)
  rw [floor_append kept digit small, Int.cast_natCast, Nat.cast_lt] at below
  rw [Carries, ← below, ← scaled_eq_round, scaled_append kept digit small, Nat.cast_inj]

theorem not_carries_of_zeros (precision value zeros : Nat) :
    ¬ Carries precision ((value : ℚ) * 10 ^ (zeros : Int)) := by
  rintro ⟨-, below, rounds⟩
  have whole : (value : ℚ) * 10 ^ (zeros : Int) = ((value * 10 ^ zeros : Nat) : ℚ) := by
    push_cast
    rw [zpow_natCast]
  rw [whole] at below rounds
  rw [round_natCast] at rounds
  have same : value * 10 ^ zeros = IntWidth.w128.half := by exact_mod_cast rounds
  rw [same] at below
  exact lt_irrefl _ below

theorem widenDigits?_attempt (digits : List Nat) (zeros precision : Nat) :
    Attempt precision ((magnitude digits : ℚ) * 10 ^ (zeros : Int))
      (.ok (widenDigits? digits zeros precision)) := by
  have fine := not_carries_of_zeros precision (magnitude digits) zeros
  have range : IntWidth.w128.greatest = (IntWidth.w128.half : Int) - 1 := rfl
  cases widened : widenDigits? digits zeros precision with
  | none => exact .refused fine
  | some result =>
      unfold widenDigits? at widened
      split at widened
      next => cases widened
      next =>
        rcases accumulate?_cases digits with ⟨summed, _⟩ | ⟨summed, small⟩
        · rw [summed] at widened
          cases widened
        · rw [summed] at widened
          obtain ⟨value, rfl, held⟩ := appendZeros?_held (by omega) widened
          exact .held held fine

section

variable {digit : Nat} {rest : List Nat} {precision : Nat}

theorem roundDigits_attempt (positive : 0 < digit) (small : ∀ d ∈ digit :: rest, d < 10)
    (dropped : Nat) :
    Attempt precision ((magnitude (digit :: rest) : ℚ) * 10 ^ Int.negSucc dropped)
      (roundDigits (digit :: rest) (dropped + 1) precision) := by
  rcases roundDigits_cases small dropped precision with
    ⟨nothing, rounded⟩ | ⟨kept, next, others, whole, count, _, rounded⟩
  · have zeroHeld : ((0 : Nat) : Int) ≤ IntWidth.w128.greatest := by decide
    rw [rounded]
    refine .held zeroHeld ?_
    rintro ⟨-, -, out⟩
    rw [← scaled_eq_round, nothing] at out
    exact absurd out (by decide)
  have keptSmall : ∀ d ∈ kept, d < 10 := fun d member =>
    small d (whole ▸ List.mem_append_left _ member)
  have carries := carries_append precision kept next fun d member =>
    small d (whole ▸ List.mem_append_right _ member)
  rw [← whole, count] at carries
  rw [rounded]
  by_cases many : precision < kept.length
  · have reached := pow_le_kept positive whole many
    rw [if_pos many]
    refine .refused ?_
    rw [carries, ← half_le_pow_iff]
    omega
  rw [if_neg many]
  rcases accumulate?_cases kept with ⟨summed, large⟩ | ⟨summed, held⟩
  · rw [summed, Option.elim_none]
    refine .refused ?_
    rw [carries]
    omega
  rw [summed, Option.elim_some, exact_carry held (5 ≤ next)]
  -- The digits in front are held, so the carry leaves the range only where it reaches the half.
  by_cases out : magnitude kept + (if 5 ≤ next then 1 else 0) = IntWidth.w128.half
  · have below : magnitude kept < 10 ^ precision :=
      (magnitude_lt keptSmall).trans_le (Nat.pow_le_pow_right (by decide) (Nat.not_lt.mp many))
    have beyond : DecimalType.maxPrecision < precision := by
      rw [← half_le_pow_iff, ← out]
      split <;> omega
    rw [if_pos out]
    exact .carried (carries.mpr ⟨beyond, held, out⟩)
  · have range : IntWidth.w128.greatest = (IntWidth.w128.half : Int) - 1 := rfl
    have fits : ((magnitude kept + if 5 ≤ next then 1 else 0 : Nat) : Int) ≤
        IntWidth.w128.greatest := by
      split at out <;> split <;> omega
    rw [if_neg out]
    exact .held fits fun carried => out (carries.mp carried).2.2

theorem rescaleDigits_attempt (positive : 0 < digit) (small : ∀ d ∈ digit :: rest, d < 10)
    (change : Int) :
    Attempt precision ((magnitude (digit :: rest) : ℚ) * 10 ^ change)
      (rescaleDigits (digit :: rest) change precision) := by
  unfold rescaleDigits
  cases change with
  | ofNat zeros =>
      have nonneg : 0 ≤ Int.ofNat zeros := Int.natCast_nonneg zeros
      rw [if_pos nonneg]
      exact widenDigits?_attempt (digit :: rest) zeros precision
  | negSucc dropped =>
      rw [if_neg (Int.not_le.mpr (Int.negSucc_lt_zero dropped))]
      exact roundDigits_attempt positive small dropped

end

/-! ## Literals -/

variable {bytes : List UInt8} {type : DecimalType}

theorem parseBytes_eq_error_iff (bytes : List UInt8) (type : DecimalType) (fault : Fault) :
    parseBytes bytes type = .error fault ↔
      fault = .overflow "add" ∧ CarriesOut bytes type := by
  cases read : DecimalLiteral.lex? bytes with
  | none =>
      rw [parseBytes_of_not_lex type read]
      simp [CarriesOut, read]
  | some l =>
      have carries : CarriesOut bytes type ↔ Carries type.precision.toNat
          ((magnitude l.digits : ℚ) * 10 ^ changeOf l type) := by
        simp [CarriesOut, read]
      rw [carries]
      rcases parseBytes_rescaled type read with
        ⟨nothing, done⟩ | ⟨digit, rest, positive, small, same, done⟩
      · have fine := not_carries_of_zeros type.precision.toNat 0 0
        rw [Nat.cast_zero, zero_mul] at fine
        rw [done, nothing, Nat.cast_zero, zero_mul]
        simp only [reduceCtorEq, fine, and_false]
      · have attempt : Attempt type.precision.toNat _ _ :=
          rescaleDigits_attempt positive small (changeOf l type)
        rw [same] at attempt
        rw [done]
        generalize rescaleDigits (digit :: rest) (changeOf l type) type.precision.toNat =
          outcome at attempt
        cases attempt with
        | refused fine =>
            change Except.ok none = _ ↔ _
            simp only [reduceCtorEq, fine, and_false]
        | held held fine =>
            change ofMagnitude .w128 l.negative _ type = _ ↔ _
            rw [ofMagnitude_of_le _ type held]
            simp only [reduceCtorEq, fine, and_false]
        | carried out =>
            change Except.error _ = _ ↔ _
            rw [Except.error.injEq, eq_comm]
            exact (and_iff_left out).symm

theorem parseCompact_returns (few : type.precision.toNat ≤ DecimalType.maxCompactPrecision)
    (short : bytes.length ≤ DecimalType.maxCompactPrecision) :
    ∃ result, parseCompact bytes type = .ok result := by
  cases read : DecimalLiteral.lex? bytes with
  | none => exact ⟨none, parseCompact_of_not_lex few short read⟩
  | some l =>
      rcases parseCompact_rescaled few short read with ⟨_, done⟩ | ⟨outcome, settled, done⟩
      · exact ⟨_, done⟩
      · rw [done]
        cases settled with
        | held small => exact ⟨_, ofMagnitude_of_le _ type small⟩
        | refused => exact ⟨none, rfl⟩

theorem cast_eq_error_iff (bytes : List UInt8) (type : DecimalType) (fault : Fault) :
    cast bytes type = .error fault ↔ fault = .overflow "add" ∧ CarriesOut bytes type := by
  unfold cast
  split
  next compact =>
    rw [usesCompact, DecimalType.isCompact, Bool.and_eq_true, decide_eq_true_iff,
      decide_eq_true_iff] at compact
    obtain ⟨result, returned⟩ := parseCompact_returns compact.1 compact.2
    -- Only types of more digits than any checked one has can carry out.
    have fine : ¬ CarriesOut bytes type := by
      rintro ⟨l, _, beyond, _⟩
      exact absurd (beyond.trans_le compact.1) (by decide)
    rw [returned]
    simp only [reduceCtorEq, fine, and_false]
  next => exact parseBytes_eq_error_iff bytes type fault

/-- Reading a decimal abandons the call only for a carry that leaves the 128 bits. -/
theorem error_iff_carriesOut (type : DecimalType) :
    (∀ (literal : String) (fault : Fault), parse literal type = .error fault ↔
      fault = .overflow "add" ∧ CarriesOut (Utf8.encodeText literal) type) ∧
    ∀ (s : RowString) (fault : Fault), s.castDecimal type = .error fault ↔
      fault = .overflow "add" ∧ CarriesOut s.content type := by
  constructor
  · intro literal fault
    exact parseBytes_eq_error_iff (Utf8.encodeText literal) type fault
  · intro s fault
    rw [RowString.castDecimal, RowString.bytes_eq]
    exact cast_eq_error_iff s.content type fault

/-- A type of 39 digits is read from a document. One half more than the greatest 128-bit number
does not fit it, and is not refused as the next whole number is. -/
theorem overflow_of_readType :
    DecimalType.read? "[39,0]" = some ⟨39, 0⟩ ∧
      parse "170141183460469231731687303715884105727.5" ⟨39, 0⟩ = .error (.overflow "add") ∧
      (RowString.ofText "170141183460469231731687303715884105727.5").castDecimal ⟨39, 0⟩ =
        .error (.overflow "add") ∧
      parse "170141183460469231731687303715884105728" ⟨39, 0⟩ = .ok none := by
  decide +kernel

end RowText.Decimal
