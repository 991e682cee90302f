import RowText.Proofs.Decimal.Lexical
import RowText.Proofs.Decimal.Rounding
import RowText.Proofs.IntWidth

/-!
# Literals of any length

Dropping digits in 128-bit arithmetic gives the value of the digits, scaled and rounded, unless that
has too many digits (`rescaleDigits_settled`). `Settled` relates what the arithmetic gives to the
value it stands for.
-/

namespace RowText

namespace Decimal

def within? (negative : Bool) (value : Nat) (type : DecimalType) : Option Decimal :=
  if value < 10 ^ type.precision.toNat then
    some ⟨if negative then -(value : Int) else value, type⟩
  else none

inductive Settled (w : IntWidth) (precision value : Nat) : Option Int → Prop
  | held (small : (value : Int) ≤ w.greatest) : Settled w precision value (some value)
  | refused (large : 10 ^ precision ≤ value) : Settled w precision value none

theorem ofMagnitude_of_le {w : IntWidth} (negative : Bool) {value : Nat} (type : DecimalType)
    (small : (value : Int) ≤ w.greatest) :
    ofMagnitude w negative value type =
      .ok (fit? (if negative then -(value : Int) else value) type) := by
  have negated : w.holds (-(value : Int)) = true := by
    rw [IntWidth.holds, Bool.and_eq_true, decide_eq_true_iff, decide_eq_true_iff, IntWidth.least]
    rw [IntWidth.greatest] at small ⊢
    omega
  unfold ofMagnitude
  cases negative with
  | false => rfl
  | true =>
      rw [if_pos rfl, IntWidth.exact, if_pos negated]
      rfl

theorem natAbs_signed (negative : Bool) (value : Nat) :
    (if negative then -(value : Int) else value).natAbs = value := by
  cases negative with
  | false => exact Int.natAbs_natCast value
  | true => exact (Int.natAbs_neg _).trans (Int.natAbs_natCast value)

theorem natAbs_lt_pow_iff (unscaled : Int) (precision : Nat) :
    unscaled.natAbs < 10 ^ precision ↔ |unscaled| < 10 ^ precision := by
  rw [← Int.natCast_natAbs]
  exact_mod_cast Iff.rfl

theorem ofMagnitude_eq {w : IntWidth} (negative : Bool) {value : Nat} {type : DecimalType}
    (positive : 0 < type.precision.toNat) (small : (value : Int) ≤ w.greatest) :
    ofMagnitude w negative value type = .ok (within? negative value type) := by
  rw [ofMagnitude_of_le negative type small, fit?_eq _ positive, natAbs_signed, within?]

theorem ofMagnitude_of_settled {w : IntWidth} (negative : Bool) {value : Nat} {type : DecimalType}
    (positive : 0 < type.precision.toNat) {outcome : Option Int}
    (settled : Settled w type.precision.toNat value outcome) :
    (match outcome with
      | none => pure none
      | some magnitude => ofMagnitude w negative magnitude type) =
      Except.ok (within? negative value type) := by
  cases settled with
  | held small => exact ofMagnitude_eq negative positive small
  | refused large =>
      rw [within?, if_neg (Nat.not_lt.mpr large)]
      rfl

theorem accumulate?_eq (value : Nat) (digits : List Nat)
    (small : ((value * 10 ^ digits.length + magnitude digits : Nat) : Int) ≤
      IntWidth.w128.greatest) :
    accumulate? value digits =
      some ((value * 10 ^ digits.length + magnitude digits : Nat) : Int) := by
  induction digits generalizing value with
  | nil => simp [accumulate?]
  | cons digit rest ih =>
      have least : value * 10 + digit ≤ (value * 10 + digit) * 10 ^ rest.length + magnitude rest :=
        (Nat.le_mul_of_pos_right _ (Nat.pow_pos (by decide))).trans (Nat.le_add_right _ _)
      rw [shift_magnitude_cons] at small ⊢
      have shiftedSmall : ((value * 10 : Nat) : Int) ≤ IntWidth.w128.greatest := by omega
      have addedSmall : ((value * 10 + digit : Nat) : Int) ≤ IntWidth.w128.greatest := by omega
      have shifted := IntWidth.fit?_of_le shiftedSmall
      have added := IntWidth.fit?_of_le addedSmall
      rw [Nat.cast_mul, Nat.cast_ofNat] at shifted
      rw [Nat.cast_add, Nat.cast_mul, Nat.cast_ofNat] at added
      simp only [accumulate?, shifted, added]
      rw [← ih _ small]
      push_cast
      rfl

theorem accumulate?_zero {digits : List Nat}
    (small : ((magnitude digits : Nat) : Int) ≤ IntWidth.w128.greatest) :
    accumulate? 0 digits = some ((magnitude digits : Nat) : Int) := by
  have accumulated := accumulate?_eq 0 digits
  rw [Nat.zero_mul, Nat.zero_add] at accumulated
  exact accumulated small

theorem appendZeros?_eq (value zeros : Nat)
    (small : ((value * 10 ^ zeros : Nat) : Int) ≤ IntWidth.w128.greatest) :
    appendZeros? value zeros = some ((value * 10 ^ zeros : Nat) : Int) := by
  induction zeros generalizing value with
  | zero => simp [appendZeros?]
  | succ zeros ih =>
      have total : value * 10 ^ (zeros + 1) = value * 10 * 10 ^ zeros := by ring
      have least : value * 10 ≤ value * 10 * 10 ^ zeros :=
        Nat.le_mul_of_pos_right _ (Nat.pow_pos (by decide))
      rw [total] at small ⊢
      have shiftedSmall : ((value * 10 : Nat) : Int) ≤ IntWidth.w128.greatest := by omega
      have shifted := IntWidth.fit?_of_le shiftedSmall
      rw [Nat.cast_mul, Nat.cast_ofNat] at shifted
      simp only [appendZeros?, shifted]
      rw [← ih _ small]
      push_cast
      rfl

section

variable {digit : Nat} {rest : List Nat} {precision : Nat}

theorem pow_le_greatest (few : precision ≤ DecimalType.maxPrecision) :
    ((10 ^ precision : Nat) : Int) + 1 ≤ IntWidth.w128.greatest := by
  have larger : 10 ^ precision ≤ 10 ^ 38 := Nat.pow_le_pow_right (by decide) few
  have fits : ((10 ^ 38 : Nat) : Int) + 1 ≤ IntWidth.w128.greatest := by decide
  omega

theorem widenDigits?_settled (positive : 0 < digit) (small : ∀ d ∈ digit :: rest, d < 10)
    (few : precision ≤ DecimalType.maxPrecision) (zeros : Nat) :
    Settled .w128 precision (scaled (magnitude (digit :: rest)) (.ofNat zeros))
      (widenDigits? (digit :: rest) zeros precision) := by
  have saturated : precision < Word.addSat (digit :: rest).length zeros ↔
      precision < (digit :: rest).length + zeros := by
    rw [DecimalType.maxPrecision] at few
    rw [Word.addSat, Word.limit]
    omega
  unfold widenDigits?
  by_cases many : precision < (digit :: rest).length + zeros
  · rw [if_pos (saturated.mpr many)]
    apply Settled.refused
    rw [List.length_cons] at many
    exact pow_le_scaled (pow_le_magnitude positive rest) (by omega)
  · rw [if_neg (mt saturated.mp many)]
    have below := scaled_lt (magnitude_lt small) (Nat.not_lt.mp many)
    have held : ((scaled (magnitude (digit :: rest)) (.ofNat zeros) : Nat) : Int) ≤
        IntWidth.w128.greatest := by
      have fits := pow_le_greatest few
      omega
    have whole : magnitude (digit :: rest) ≤ scaled (magnitude (digit :: rest)) (.ofNat zeros) :=
      Nat.le_mul_of_pos_right _ (Nat.pow_pos (by decide))
    have accumulated :
        accumulate? 0 (digit :: rest) = some ((magnitude (digit :: rest) : Nat) : Int) :=
      accumulate?_zero (by omega)
    have widened := appendZeros?_eq (magnitude (digit :: rest)) zeros held
    simp only [accumulated, widened]
    exact Settled.held held

theorem pow_le_kept (positive : 0 < digit) {kept behind : List Nat}
    (whole : digit :: rest = kept ++ behind) (many : precision < kept.length) :
    10 ^ precision ≤ magnitude kept := by
  cases kept with
  | nil => exact absurd many (Nat.not_lt_zero _)
  | cons first tail =>
      have same : digit = first := (List.cons.inj whole).1
      have reached := pow_le_magnitude (same ▸ positive) tail
      rw [List.length_cons] at many
      exact (Nat.pow_le_pow_right (by decide) (Nat.le_of_lt_succ many)).trans reached

theorem roundDigits_cases {digits : List Nat} (small : ∀ d ∈ digits, d < 10)
    (dropped precision : Nat) :
    (scaled (magnitude digits) (.negSucc dropped) = 0 ∧
      roundDigits digits (dropped + 1) precision = .ok (some 0)) ∨
      ∃ kept next others, digits = kept ++ next :: others ∧ others.length = dropped ∧
        scaled (magnitude digits) (.negSucc dropped) =
          magnitude kept + (if 5 ≤ next then 1 else 0) ∧
        roundDigits digits (dropped + 1) precision =
          if precision < kept.length then .ok none
          else (accumulate? 0 kept).elim (.ok none) fun value => do
            return some (← IntWidth.w128.exact "add" (value + if 5 ≤ next then 1 else 0)) := by
  unfold roundDigits
  by_cases short : digits.length < dropped + 1
  · left
    rw [if_pos short]
    exact ⟨scaled_of_dropped (magnitude_lt small) (Nat.lt_succ_iff.mp short), rfl⟩
  · right
    obtain ⟨kept, next, others, front, behind, whole, count⟩ :=
      exists_dropped (Nat.lt_of_succ_le (Nat.not_lt.mp short))
    have behindSmall : ∀ d ∈ next :: others, d < 10 := fun d member =>
      small d (whole ▸ List.mem_append_right _ member)
    refine ⟨kept, next, others, whole, count, ?_, ?_⟩
    · rw [whole, ← count]
      exact scaled_append kept next behindSmall
    · rw [if_neg short, front, behind]
      simp only [List.head?_cons, Option.any_some, decide_eq_true_eq]
      cases accumulate? 0 kept <;> rfl

theorem roundDigits_settled (positive : 0 < digit) (small : ∀ d ∈ digit :: rest, d < 10)
    (few : precision ≤ DecimalType.maxPrecision) (dropped : Nat) :
    ∃ outcome, roundDigits (digit :: rest) (dropped + 1) precision = .ok outcome ∧
      Settled .w128 precision (scaled (magnitude (digit :: rest)) (.negSucc dropped)) outcome := by
  rcases roundDigits_cases small dropped precision with
    ⟨nothing, rounded⟩ | ⟨kept, next, others, whole, count, value, rounded⟩
  · rw [rounded, nothing]
    exact ⟨_, rfl, Settled.held (by decide)⟩
  rw [rounded, value]
  by_cases many : precision < kept.length
  · refine ⟨none, if_pos many, Settled.refused ?_⟩
    exact (pow_le_kept positive whole many).trans (Nat.le_add_right _ _)
  · have keptSmall : ∀ d ∈ kept, d < 10 := fun d member =>
      small d (whole ▸ List.mem_append_left _ member)
    have below : magnitude kept < 10 ^ precision :=
      (magnitude_lt keptSmall).trans_le (Nat.pow_le_pow_right (by decide) (Nat.not_lt.mp many))
    have fits := pow_le_greatest few
    have accumulated : accumulate? 0 kept = some ((magnitude kept : Nat) : Int) :=
      accumulate?_zero (by omega)
    have held : ((magnitude kept + if 5 ≤ next then 1 else 0 : Nat) : Int) ≤
        IntWidth.w128.greatest := by
      split <;> omega
    have added := IntWidth.exact_of_le "add" held
    rw [Nat.cast_add, Nat.cast_ite, Nat.cast_one, Nat.cast_zero] at added
    simp only [if_neg many, accumulated, Option.elim_some, added]
    exact ⟨_, rfl, by exact_mod_cast Settled.held held⟩

theorem rescaleDigits_settled (positive : 0 < digit) (small : ∀ d ∈ digit :: rest, d < 10)
    (few : precision ≤ DecimalType.maxPrecision) (change : Int) :
    ∃ outcome, rescaleDigits (digit :: rest) change precision = .ok outcome ∧
      Settled .w128 precision (scaled (magnitude (digit :: rest)) change) outcome := by
  unfold rescaleDigits
  cases change with
  | ofNat zeros =>
      have nonneg : 0 ≤ Int.ofNat zeros := Int.natCast_nonneg zeros
      rw [if_pos nonneg]
      exact ⟨_, rfl, widenDigits?_settled positive small few zeros⟩
  | negSucc dropped =>
      rw [if_neg (Int.not_le.mpr (Int.negSucc_lt_zero dropped))]
      exact roundDigits_settled positive small few dropped

end

theorem precision_of_valid {type : DecimalType} (valid : type.isValid = true) :
    0 < type.precision.toNat ∧ type.precision.toNat ≤ DecimalType.maxPrecision := by
  rw [DecimalType.isValid, Bool.and_eq_true, Bool.and_eq_true, decide_eq_true_iff,
    decide_eq_true_iff] at valid
  exact valid.1

def changeOf (l : DecimalLiteral) (type : DecimalType) : Int :=
  IntWidth.w64.clamp (l.scaleExponent + type.scale.toNat)

/-- The scaled digits of a literal with its sign, unless there are too many. -/
def nearest? (l : DecimalLiteral) (type : DecimalType) : Option Decimal :=
  within? l.negative (scaled (magnitude l.digits) (changeOf l type)) type

theorem nearest?_of_zero {l : DecimalLiteral} (nothing : magnitude l.digits = 0)
    (type : DecimalType) : nearest? l type = some (zero type) := by
  rw [nearest?, nothing, scaled_zero, within?, if_pos (Nat.pow_pos (by decide))]
  cases l.negative <;> rfl

theorem parseBytes_of_not_lex {bytes : List UInt8} (type : DecimalType)
    (absent : DecimalLiteral.lex? bytes = none) : parseBytes bytes type = .ok none := by
  unfold parseBytes
  simp only [absent]
  rfl

theorem parseBytes_rescaled {bytes : List UInt8} {l : DecimalLiteral} (type : DecimalType)
    (read : DecimalLiteral.lex? bytes = some l) :
    (magnitude l.digits = 0 ∧ parseBytes bytes type = .ok (some (zero type))) ∨
      ∃ digit rest, 0 < digit ∧ (∀ d ∈ digit :: rest, d < 10) ∧
        magnitude (digit :: rest) = magnitude l.digits ∧
        parseBytes bytes type = (do
          match ← rescaleDigits (digit :: rest) (changeOf l type) type.precision.toNat with
          | none => return none
          | some value => ofMagnitude .w128 l.negative value type) := by
  unfold parseBytes
  simp only [read]
  obtain ⟨n, _, rfl⟩ := DecimalLiteral.spell_of_lex? read
  rcases dropZeros_cases n.literal_digits_lt with
    ⟨nothing, zero⟩ | ⟨digit, rest, stripped, nonzero, fine, same⟩
  · left
    refine ⟨zero, ?_⟩
    rw [nothing]
    rfl
  · right
    refine ⟨digit, rest, nonzero, fine, same, ?_⟩
    rw [stripped, List.isEmpty_cons, if_neg Bool.false_ne_true]
    rfl

theorem parseBytes_eq {type : DecimalType} (valid : type.isValid = true) (bytes : List UInt8) :
    parseBytes bytes type = .ok ((DecimalLiteral.lex? bytes).bind (nearest? · type)) := by
  have ⟨positive, few⟩ := precision_of_valid valid
  cases read : DecimalLiteral.lex? bytes with
  | none => exact parseBytes_of_not_lex type read
  | some l =>
      rcases parseBytes_rescaled type read with
        ⟨zero, done⟩ | ⟨digit, rest, nonzero, fine, same, done⟩
      · rw [done, Option.bind_some, nearest?_of_zero zero]
      · have ⟨outcome, rescaled, settled⟩ :=
          rescaleDigits_settled nonzero fine few (changeOf l type)
        rw [same] at settled
        rw [done, rescaled]
        exact ofMagnitude_of_settled l.negative positive settled

end Decimal

end RowText
