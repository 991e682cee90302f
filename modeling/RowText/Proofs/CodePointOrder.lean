import RowText.Proofs.Order
import RowText.Proofs.Search

namespace RowText

namespace Utf8

theorem compare_ofNat {m n : Nat} (mSmall : m < 0x100) (nSmall : n < 0x100) :
    compare (UInt8.ofNat m) (UInt8.ofNat n) = compare m n := by
  have same : UInt8.ofNat m = UInt8.ofNat n ↔ m = n := by
    rw [← UInt8.toNat_inj, UInt8.toNat_ofNat_of_lt' mSmall, UInt8.toNat_ofNat_of_lt' nSmall]
  simp only [compare, compareOfLessAndEq, UInt8.lt_iff_toNat_lt, same,
    UInt8.toNat_ofNat_of_lt' mSmall, UInt8.toNat_ofNat_of_lt' nSmall]

theorem compare_ofNat_cons {m n : Nat} (less : m < n) (small : n < 0x100) (xs ys : List UInt8) :
    compare (.ofNat m :: xs) (.ofNat n :: ys) = .lt := by
  rw [List.compare_cons_cons, compare_ofNat (Nat.lt_trans less small) small,
    Nat.compare_eq_lt.mpr less, Ordering.lt_then]

theorem compare_append_left (xs ys zs : List UInt8) :
    compare (xs ++ ys) (xs ++ zs) = compare ys zs := by
  induction xs with
  | nil => rfl
  | cons x xs ih =>
      rw [List.cons_append, List.cons_append, List.compare_cons_cons, Std.ReflOrd.compare_self,
        Ordering.eq_then, ih]

def SpelledInOrder (spell : Nat → List UInt8) (bound : Nat) : Prop :=
  ∀ m n, m < n → n < bound → ∀ xs ys, compare (spell m ++ xs) (spell n ++ ys) = .lt

theorem spelledInOrder_lead (mark bound : Nat) (room : mark + bound ≤ 0x100) :
    SpelledInOrder (fun n => [.ofNat (mark + n)]) bound := by
  intro m n less inside xs ys
  exact compare_ofNat_cons (by omega) (by omega) xs ys

theorem SpelledInOrder.digit {spell : Nat → List UInt8} {bound : Nat}
    (inOrder : SpelledInOrder spell bound) :
    SpelledInOrder (fun n => spell (n / 0x40) ++ [.ofNat (0x80 + n % 0x40)]) (bound * 0x40) := by
  intro m n less inside xs ys
  dsimp only
  rw [List.append_assoc, List.append_assoc]
  rcases Nat.lt_or_eq_of_le (Nat.div_le_div_right (c := 0x40) (Nat.le_of_lt less)) with high | same
  · exact inOrder _ _ high (Nat.div_lt_of_lt_mul (by omega)) _ _
  · rw [same, compare_append_left]
    exact compare_ofNat_cons (by omega) (by omega) xs ys

theorem compare_encodeChar_lt {c d : Char} (less : c.toNat < d.toNat) (xs ys : List UInt8) :
    compare (encodeChar c ++ xs) (encodeChar d ++ ys) = .lt := by
  have two := (spelledInOrder_lead 0xC0 0x40 (by omega)).digit
  have three := (spelledInOrder_lead 0xE0 0x10 (by omega)).digit.digit
  have four := (spelledInOrder_lead 0xF0 0x10 (by omega)).digit.digit.digit
  simp only [Nat.div_div_eq_div_mul, Nat.reduceMul] at two three four
  have scalar : d.toNat < 0x110000 := by
    have valid : d.toNat < 0xD800 ∨ 0xDFFF < d.toNat ∧ d.toNat < 0x110000 := d.valid
    omega
  unfold encodeChar
  generalize c.toNat = m at less
  generalize d.toNat = n at less scalar
  dsimp only
  -- With the greater code point in one class, the smaller one is in the same or in one before it.
  by_cases nOne : n < 0x80
  · rw [if_pos nOne, if_pos (by omega)]
    exact compare_ofNat_cons less (by omega) _ _
  by_cases nTwo : n < 0x800
  · rw [if_neg nOne, if_pos nTwo]
    by_cases mOne : m < 0x80
    · rw [if_pos mOne]
      exact compare_ofNat_cons (by omega) (by omega) _ _
    · rw [if_neg mOne, if_pos (by omega)]
      exact two m n less (by omega) xs ys
  by_cases nThree : n < 0x10000
  · rw [if_neg nOne, if_neg nTwo, if_pos nThree]
    by_cases mOne : m < 0x80
    · rw [if_pos mOne]
      exact compare_ofNat_cons (by omega) (by omega) _ _
    by_cases mTwo : m < 0x800
    · rw [if_neg mOne, if_pos mTwo]
      exact compare_ofNat_cons (by omega) (by omega) _ _
    · rw [if_neg mOne, if_neg mTwo, if_pos (by omega)]
      exact three m n less (by omega) xs ys
  · rw [if_neg nOne, if_neg nTwo, if_neg nThree]
    by_cases mOne : m < 0x80
    · rw [if_pos mOne]
      exact compare_ofNat_cons (by omega) (by omega) _ _
    by_cases mTwo : m < 0x800
    · rw [if_neg mOne, if_pos mTwo]
      exact compare_ofNat_cons (by omega) (by omega) _ _
    by_cases mThree : m < 0x10000
    · rw [if_neg mOne, if_neg mTwo, if_pos mThree]
      exact compare_ofNat_cons (by omega) (by omega) _ _
    · rw [if_neg mOne, if_neg mTwo, if_neg mThree]
      exact four m n less (by omega) xs ys

theorem compare_encodeChar (c d : Char) (xs ys : List UInt8) :
    compare (encodeChar c ++ xs) (encodeChar d ++ ys) =
      (compare c.toNat d.toNat).then (compare xs ys) := by
  rcases Nat.lt_trichotomy c.toNat d.toNat with less | same | greater
  · rw [compare_encodeChar_lt less, Nat.compare_eq_lt.mpr less, Ordering.lt_then]
  · obtain rfl := Char.toNat_inj.mp same
    rw [compare_append_left, Std.ReflOrd.compare_self, Ordering.eq_then]
  · rw [Std.OrientedCmp.gt_iff_lt.mpr (compare_encodeChar_lt greater ys xs),
      Nat.compare_eq_gt.mpr greater, Ordering.gt_then]

theorem compare_encode (xs ys : List Char) :
    compare (encode xs) (encode ys) = compare (xs.map Char.toNat) (ys.map Char.toNat) := by
  induction xs generalizing ys with
  | nil =>
      cases ys with
      | nil => rfl
      | cons y ys =>
          obtain ⟨lead, rest, shape, -⟩ := encode_cons_step y ys
          rw [shape]
          rfl
  | cons x xs ih =>
      cases ys with
      | nil =>
          obtain ⟨lead, rest, shape, -⟩ := encode_cons_step x xs
          rw [shape]
          rfl
      | cons y ys =>
          rw [encode_cons, encode_cons, compare_encodeChar, ih, List.map_cons, List.map_cons,
            List.compare_cons_cons]

end Utf8

namespace RowString

theorem compareTo_encode {a b : RowString} {xs ys : List Char} (ha : a.WellFormed)
    (hb : b.WellFormed) (aEncoded : a.content = Utf8.encode xs)
    (bEncoded : b.content = Utf8.encode ys) :
    a.compareTo b = compare (xs.map Char.toNat) (ys.map Char.toNat) := by
  rw [compareTo_content ha hb, aEncoded, bEncoded, Utf8.compare_encode]

theorem compareTo_encode_straddlingChar :
    straddlingChar.WellFormed ∧ straddlingChar.content = Utf8.encode ['a', '中', 'b'] ∧
      straddlingChar.compareTo (ofText "a😀") = .lt ∧
      straddlingChar.compareTo (ofText "a中") = .gt := by
  have wider : (ofText "a😀").content = Utf8.encode ['a', '😀'] := rfl
  have shorter : (ofText "a中").content = Utf8.encode ['a', '中'] := rfl
  exact ⟨straddlingChar_wellFormed, straddlingChar_content,
    compareTo_encode straddlingChar_wellFormed (ofText_wellFormed _) straddlingChar_content wider,
    compareTo_encode straddlingChar_wellFormed (ofText_wellFormed _) straddlingChar_content shorter⟩

end RowString

end RowText
