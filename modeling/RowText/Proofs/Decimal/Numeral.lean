import RowText.Proofs.Decimal.Digits
import Mathlib.Data.List.TakeWhile
import Mathlib.Data.Rat.Defs
import Mathlib.Algebra.Order.Field.Rat

/-!
# Numerals

`Numeral` is the grammar `[+-]? D* ('.' D*)? ([eE] [+-]? D+)?` with a digit in front of the
exponent, and `Numeral.value` is the rational number that a numeral denotes.
-/

namespace RowText

structure Padded (bytes text : List UInt8) : Prop where
  around : ∃ lead trail, bytes = lead ++ text ++ trail ∧
    ∀ byte ∈ lead ++ trail, isAsciiSpace byte = true
  first : ∀ byte ∈ text.head?, isAsciiSpace byte = false
  last : ∀ byte ∈ text.getLast?, isAsciiSpace byte = false

theorem isAsciiSpace_ascii {byte : UInt8} (space : isAsciiSpace byte = true) : byte < 0x80 := by
  simp only [isAsciiSpace, Bool.or_eq_true, beq_iff_eq] at space
  rcases space with (((rfl | rfl) | rfl) | rfl) | rfl <;> decide

theorem head?_dropSpace (bytes : List UInt8) :
    ∀ byte ∈ (bytes.dropWhile isAsciiSpace).head?, isAsciiSpace byte = false := by
  intro byte member
  have kept := List.head?_dropWhile_not isAsciiSpace bytes
  rw [Option.mem_def.mp member] at kept
  exact kept

theorem padded_trimSpace (bytes : List UInt8) : Padded bytes (trimSpace bytes) := by
  let rest := bytes.dropWhile isAsciiSpace
  have front : bytes = bytes.takeWhile isAsciiSpace ++ rest := List.takeWhile_append_dropWhile.symm
  have back : rest = trimSpace bytes ++ (rest.reverse.takeWhile isAsciiSpace).reverse := by
    rw [trimSpace, ← List.reverse_append, List.takeWhile_append_dropWhile, List.reverse_reverse]
  constructor
  · refine ⟨_, _, front.trans (by rw [List.append_assoc, ← back]), ?_⟩
    intro byte member
    rcases List.mem_append.mp member with leading | trailing
    · exact List.mem_takeWhile_imp leading
    · exact List.mem_takeWhile_imp (List.mem_reverse.mp trailing)
  · intro byte member
    apply head?_dropSpace bytes byte
    change byte ∈ rest.head?
    rw [back, List.head?_append, Option.mem_def.mp member]
    rfl
  · intro byte member
    apply head?_dropSpace rest.reverse byte
    rw [← List.getLast?_reverse]
    exact member

theorem dropSpace_of_head {bytes : List UInt8}
    (first : ∀ byte ∈ bytes.head?, isAsciiSpace byte = false) :
    bytes.dropWhile isAsciiSpace = bytes := by
  cases bytes with
  | nil => rfl
  | cons byte rest =>
      apply List.dropWhile_cons_of_neg
      rw [first byte rfl]
      exact Bool.false_ne_true

theorem trimSpace_of_padded {bytes text : List UInt8} (padded : Padded bytes text) :
    trimSpace bytes = text := by
  obtain ⟨lead, trail, around, spaces⟩ := padded.around
  have leadSpaces : ∀ byte ∈ lead, isAsciiSpace byte = true := fun byte member =>
    spaces byte (List.mem_append_left _ member)
  have trailSpaces : ∀ byte ∈ trail, isAsciiSpace byte = true := fun byte member =>
    spaces byte (List.mem_append_right _ member)
  have trailReversed : ∀ byte ∈ trail.reverse, isAsciiSpace byte = true := fun byte member =>
    trailSpaces byte (List.mem_reverse.mp member)
  rw [trimSpace, around, List.append_assoc, List.dropWhile_append_of_pos leadSpaces]
  rcases List.eq_nil_or_concat text with empty | ⟨front, final, whole⟩
  · rw [empty, List.nil_append, List.dropWhile_eq_nil_iff.mpr trailSpaces]
    rfl
  · have first : ∀ byte ∈ (text ++ trail).head?, isAsciiSpace byte = false := by
      intro byte member
      apply padded.first byte
      rw [whole] at member ⊢
      cases front with
      | nil => exact member
      | cons => exact member
    have last : ∀ byte ∈ text.reverse.head?, isAsciiSpace byte = false := by
      rw [List.head?_reverse]
      exact padded.last
    rw [dropSpace_of_head first, List.reverse_append, List.dropWhile_append_of_pos trailReversed,
      dropSpace_of_head last, List.reverse_reverse]

theorem padded_iff (bytes text : List UInt8) : Padded bytes text ↔ text = trimSpace bytes := by
  constructor
  · intro padded
    exact (trimSpace_of_padded padded).symm
  · rintro rfl
    exact padded_trimSpace bytes

theorem trimSpace_length (bytes : List UInt8) : (trimSpace bytes).length ≤ bytes.length := by
  obtain ⟨lead, trail, around, _⟩ := (padded_trimSpace bytes).around
  have lengths := congrArg List.length around
  simp only [List.length_append] at lengths
  omega

inductive Sign
  | absent
  | plus
  | minus

namespace Sign

def spell : Sign → List UInt8
  | absent => []
  | plus => [0x2B]
  | minus => [0x2D]

def isMinus : Sign → Bool
  | minus => true
  | _ => false

end Sign

theorem splitSign_spell (sign : Sign) {rest : List UInt8}
    (unsigned : ∀ byte ∈ rest.head?, byte ≠ 0x2B ∧ byte ≠ 0x2D) :
    splitSign (sign.spell ++ rest) = (sign.isMinus, rest) := by
  cases sign with
  | plus => rfl
  | minus => rfl
  | absent =>
      cases rest with
      | nil => rfl
      | cons byte rest =>
          have ⟨notPlus, notMinus⟩ := unsigned byte rfl
          change splitSign (byte :: rest) = (false, byte :: rest)
          unfold splitSign
          grind

theorem spell_of_splitSign (bytes : List UInt8) :
    ∃ sign : Sign, bytes = sign.spell ++ (splitSign bytes).2 := by
  unfold splitSign
  split
  · exact ⟨.minus, rfl⟩
  · exact ⟨.plus, rfl⟩
  · exact ⟨.absent, rfl⟩

def Digits (bytes : List UInt8) : Prop := ∀ byte ∈ bytes, isDigit byte = true

theorem isDigit_ascii {byte : UInt8} (digit : isDigit byte = true) : byte < 0x80 := by
  rw [isDigit, Bool.and_eq_true, decide_eq_true_iff, decide_eq_true_iff] at digit
  exact UInt8.lt_of_le_of_lt digit.2 (by decide)

theorem isDigit_notSpace {byte : UInt8} (digit : isDigit byte = true) :
    isAsciiSpace byte = false := by
  rw [Bool.eq_false_iff]
  intro space
  simp only [isAsciiSpace, Bool.or_eq_true, beq_iff_eq] at space
  rcases space with (((rfl | rfl) | rfl) | rfl) | rfl <;> exact absurd digit (by decide)

theorem digitValue_lt {byte : UInt8} (digit : isDigit byte = true) : digitValue byte < 10 := by
  rw [isDigit, Bool.and_eq_true, decide_eq_true_iff, decide_eq_true_iff] at digit
  have most : byte.toNat ≤ 0x39 := digit.2
  rw [digitValue]
  omega

theorem splitDigits_append {digits rest : List UInt8} (fine : Digits digits)
    (stop : ∀ byte ∈ rest.head?, isDigit byte = false) :
    splitDigits (digits ++ rest) = (digits, rest) := by
  rw [splitDigits, List.takeWhile_append_of_pos fine, List.dropWhile_append_of_pos fine]
  cases rest with
  | nil => rw [List.takeWhile_nil, List.dropWhile_nil, List.append_nil]
  | cons byte rest =>
      have wrong : ¬ isDigit byte = true := by
        rw [stop byte rfl]
        decide
      rw [List.takeWhile_cons_of_neg wrong, List.dropWhile_cons_of_neg wrong, List.append_nil]

theorem splitDigits_spec (bytes : List UInt8) :
    Digits (splitDigits bytes).1 ∧ bytes = (splitDigits bytes).1 ++ (splitDigits bytes).2 :=
  ⟨fun _ member => List.mem_takeWhile_imp member, List.takeWhile_append_dropWhile.symm⟩

structure Exponent where
  mark : UInt8
  sign : Sign
  digits : List UInt8
  isMark : mark = 0x65 ∨ mark = 0x45
  fine : Digits digits
  nonempty : digits ≠ []

structure Numeral where
  sign : Sign
  whole : List UInt8
  fraction : Option (List UInt8)
  exponent : Option Exponent
  wholeFine : Digits whole
  fractionFine : Digits (fraction.getD [])
  nonempty : whole ++ fraction.getD [] ≠ []

namespace Exponent

def spell (e : Exponent) : List UInt8 := e.mark :: e.sign.spell ++ e.digits

def value (e : Exponent) : Int :=
  let power := Decimal.magnitude (e.digits.map digitValue)
  if e.sign.isMinus then -power else power

end Exponent

namespace Numeral

def spellFraction : Option (List UInt8) → List UInt8
  | none => []
  | some digits => 0x2E :: digits

def spellExponent : Option Exponent → List UInt8
  | none => []
  | some exponent => exponent.spell

def spell (n : Numeral) : List UInt8 :=
  n.sign.spell ++ (n.whole ++ (spellFraction n.fraction ++ spellExponent n.exponent))

def power (n : Numeral) : Int := (n.exponent.map Exponent.value).getD 0

def value (n : Numeral) : ℚ :=
  let whole : ℚ := Decimal.magnitude (n.whole.map digitValue)
  let fraction : ℚ := Decimal.magnitude ((n.fraction.getD []).map digitValue)
  let mantissa := whole + fraction / 10 ^ (n.fraction.getD []).length
  (if n.sign.isMinus then -mantissa else mantissa) * 10 ^ n.power

def marks : List UInt8 := [0x2B, 0x2D, 0x2E, 0x65, 0x45]

theorem spell_cases (n : Numeral) : ∀ byte ∈ n.spell, isDigit byte = true ∨ byte ∈ marks := by
  have signMark (sign : Sign) : ∀ byte ∈ sign.spell, byte ∈ marks := by
    cases sign <;> simp [Sign.spell, marks]
  intro byte member
  rcases List.mem_append.mp member with member | member
  · exact Or.inr (signMark n.sign byte member)
  rcases List.mem_append.mp member with member | member
  · exact Or.inl (n.wholeFine byte member)
  rcases List.mem_append.mp member with member | member
  · have fine := n.fractionFine
    cases fraction : n.fraction with
    | none =>
        rw [fraction] at member
        cases member
    | some digits =>
        rw [fraction] at member fine
        rcases List.mem_cons.mp member with rfl | member
        · exact Or.inr (by decide)
        · exact Or.inl (fine byte member)
  · cases exponent : n.exponent with
    | none =>
        rw [exponent] at member
        cases member
    | some e =>
        rw [exponent] at member
        rcases List.mem_cons.mp member with rfl | member
        · right
          rcases e.isMark with mark | mark <;> rw [mark] <;> decide
        rcases List.mem_append.mp member with member | member
        · exact Or.inr (signMark e.sign byte member)
        · exact Or.inl (e.fine byte member)

theorem spell_ascii (n : Numeral) : ∀ byte ∈ n.spell, byte < 0x80 := by
  have marksAscii : ∀ mark ∈ marks, mark < 0x80 := by
    simp [marks]
  intro byte member
  rcases n.spell_cases byte member with digit | mark
  · exact isDigit_ascii digit
  · exact marksAscii byte mark

theorem spell_notSpace (n : Numeral) : ∀ byte ∈ n.spell, isAsciiSpace byte = false := by
  have marksNotSpace : ∀ mark ∈ marks, isAsciiSpace mark = false := by
    simp [marks, isAsciiSpace]
  intro byte member
  rcases n.spell_cases byte member with digit | mark
  · exact isDigit_notSpace digit
  · exact marksNotSpace byte mark

@[simp] theorem trimSpace_spell (n : Numeral) : trimSpace n.spell = n.spell := by
  apply trimSpace_of_padded
  refine ⟨⟨[], [], (List.append_nil _).symm, nofun⟩, ?_, ?_⟩
  · intro byte member
    exact n.spell_notSpace byte (List.mem_of_mem_head? member)
  · intro byte member
    exact n.spell_notSpace byte (List.mem_of_mem_getLast? member)

end Numeral

end RowText
