import RowText.Proofs.Regrouping

namespace RowText.Utf8

def nextRange? (bytes : List UInt8) (place : Nat) : Option (Nat × Nat) :=
  bytes[place]?.map fun lead => (place, min (place + leadWidth lead) bytes.length)

inductive Ranges (bytes : List UInt8) : (place : Nat) → List (Nat × Nat) → Prop
  | done {place : Nat} (none : nextRange? bytes place = none) : Ranges bytes place []
  | next {place stop : Nat} {ranges : List (Nat × Nat)}
      (here : nextRange? bytes place = some (place, stop)) (rest : Ranges bytes stop ranges) :
      Ranges bytes place ((place, stop) :: ranges)

theorem Ranges.unique {bytes : List UInt8} {place : Nat} {xs ys : List (Nat × Nat)}
    (first : Ranges bytes place xs) (second : Ranges bytes place ys) : xs = ys := by
  induction first generalizing ys with
  | done none =>
      cases second with
      | done => rfl
      | next here => cases none.symm.trans here
  | next here rest ih =>
      cases second with
      | done none => cases none.symm.trans here
      | next other others =>
          obtain ⟨-, rfl⟩ := Prod.mk.inj (Option.some.inj (here.symm.trans other))
          rw [ih others]

theorem ranges_append (front rest : List UInt8) :
    Ranges (front ++ rest) front.length (rangesFrom front.length (chars rest)) := by
  fun_induction chars rest generalizing front with
  | case1 =>
      refine .done ?_
      rw [nextRange?, List.append_nil, List.getElem?_eq_none (Nat.le_refl _), Option.map_none]
  | case2 lead rest ih =>
      have behind := ih (front ++ lead :: rest.take (leadWidth lead - 1))
      rw [List.append_assoc, List.cons_append, List.take_append_drop, List.length_append] at behind
      refine .next ?_ behind
      have positive := leadWidth_pos lead
      rw [nextRange?, List.getElem?_append_right (Nat.le_refl _), Nat.sub_self,
        List.getElem?_cons_zero, Option.map_some]
      simp only [List.length_append, List.length_cons, List.length_take, Option.some.injEq,
        Prod.mk.injEq, true_and]
      omega

theorem ranges_iff {bytes : List UInt8} {ranges : List (Nat × Nat)} :
    Ranges bytes 0 ranges ↔ ranges = charRanges bytes := by
  have walked : Ranges bytes 0 (charRanges bytes) := ranges_append [] bytes
  constructor
  · intro found
    exact found.unique walked
  · rintro rfl
    exact walked

theorem countChars_regrouped (chunks : List (List UInt8)) :
    countChars chunks = countChars [chunks.flatten] ∧
      countChars [chunks.flatten] = (charRanges chunks.flatten).length ∧
      ∀ ranges, Ranges chunks.flatten 0 ranges ↔ ranges = charRanges chunks.flatten := by
  have whole : countChars [chunks.flatten] = (chars chunks.flatten).length := by
    rw [countChars_eq, List.flatten_singleton]
  refine ⟨?_, ?_, fun ranges => ranges_iff⟩
  · rw [whole, countChars_eq]
  · rw [whole, charRanges, rangesFrom_length]

end RowText.Utf8
