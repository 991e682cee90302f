import RowText.Proofs.Cuts
import RowText.Proofs.Decimal.Numeral
import RowText.Proofs.Search

namespace RowText

namespace Utf8

def Boundary (cs : List Char) (place : Nat) : Prop :=
  ∃ xs ys, cs = xs ++ ys ∧ (encode xs).length = place

variable {cs : List Char} {place : Nat}

theorem boundary_zero (cs : List Char) : Boundary cs 0 := ⟨[], cs, rfl, rfl⟩

theorem boundary_length (cs : List Char) : Boundary cs (encode cs).length :=
  ⟨cs, [], (List.append_nil cs).symm, rfl⟩

theorem Boundary.le (boundary : Boundary cs place) : place ≤ (encode cs).length := by
  obtain ⟨xs, ys, rfl, rfl⟩ := boundary
  rw [encode_append, List.length_append]
  exact Nat.le_add_right _ _

theorem not_continues_of_ascii {byte : UInt8} (ascii : byte < 0x80) : ¬ Continues byte := by
  rw [UInt8.lt_iff_toNat_lt] at ascii
  intro continues
  exact absurd ascii (Nat.not_lt_of_le continues.1)

theorem split_at_getElem? {bytes : List UInt8} {index : Nat} {byte : UInt8}
    (found : bytes[index]? = some byte) :
    bytes = bytes.take index ++ byte :: bytes.drop (index + 1) := by
  obtain ⟨inside, rfl⟩ := List.getElem?_eq_some_iff.mp found
  rw [← List.drop_eq_getElem_cons inside, List.take_append_drop]

theorem boundary_of_ascii {byte : UInt8} (found : (encode cs)[place]? = some byte)
    (ascii : byte < 0x80) : Boundary cs place ∧ Boundary cs (place + 1) := by
  have length : ((encode cs).take place).length = place :=
    List.length_take_of_le (Nat.le_of_lt (List.getElem?_eq_some_iff.mp found).1)
  obtain ⟨xs, ys, rfl, front, rest⟩ :=
    exists_split_of_encode (not_continues_of_ascii ascii) (split_at_getElem? found)
  rw [← front] at length
  refine ⟨⟨xs, ys, rfl, length⟩, ?_⟩
  cases ys with
  | nil => simp [encode] at rest
  | cons c ys =>
      obtain ⟨lead, tail, shape, width, -⟩ := encodeChar_frame c
      rw [encode_cons, shape] at rest
      obtain ⟨rfl, -⟩ := List.cons.inj rest
      have single : leadWidth lead = 1 := by
        rw [leadWidth, if_pos (UInt8.lt_trans ascii (by decide))]
      refine ⟨xs ++ [c], ys, by simp, ?_⟩
      rw [encode_append, encode_cons, shape, List.length_append, length]
      simp only [encode, List.flatMap_nil, List.append_nil, List.length_cons]
      omega

theorem Boundary.slice {start stop : Nat} (first : Boundary cs start) (last : Boundary cs stop)
    (ordered : start ≤ stop) : ∃ ds, ds <:+: cs ∧ byteSlice (encode cs) start stop = encode ds := by
  obtain ⟨xs, ys, rfl, rfl⟩ := first
  obtain ⟨us, vs, joined, rfl⟩ := last
  have within : ∃ ds, us = xs ++ ds ∧ ys = ds ++ vs := by
    rcases List.append_eq_append_iff.mp joined with ⟨ds, later, rest⟩ | ⟨ds, earlier, rest⟩
    · exact ⟨ds, later, rest⟩
    · have none : ds = [] := by
        rw [earlier, encode_append, List.length_append] at ordered
        exact encode_eq_nil_iff.mp (List.eq_nil_of_length_eq_zero (by omega))
      rw [none, List.append_nil] at earlier
      rw [none, List.nil_append] at rest
      exact ⟨[], by rw [List.append_nil, earlier], rest.symm⟩
  obtain ⟨ds, rfl, rfl⟩ := within
  refine ⟨ds, ⟨xs, vs, by rw [List.append_assoc]⟩, ?_⟩
  simp only [byteSlice, encode_append, List.length_append, List.drop_left, Nat.add_sub_cancel_left,
    List.take_left]

end Utf8

section

variable {cs : List Char} {place : Nat}

theorem NextTo.boundary {test : UInt8 → Bool} (ascii : ∀ byte, test byte → byte < 0x80)
    (next : NextTo test (Utf8.encode cs) place) : Utf8.Boundary cs place := by
  rcases next with rfl | rfl | ⟨index, byte, found, passes, rfl | rfl⟩
  · exact Utf8.boundary_zero cs
  · exact Utf8.boundary_length cs
  · exact (Utf8.boundary_of_ascii found (ascii byte passes)).1
  · exact (Utf8.boundary_of_ascii found (ascii byte passes)).2

theorem NextToWhole.boundary {ns : List Char} (nonempty : ns ≠ [])
    (next : NextToWhole (Utf8.encode ns) (Utf8.encode cs) place) : Utf8.Boundary cs place := by
  rcases next with rfl | rfl | ⟨front, behind, joined, side⟩
  · exact Utf8.boundary_zero cs
  · exact Utf8.boundary_length cs
  · obtain ⟨xs, ys, rfl, rfl, -⟩ := Utf8.exists_of_encode_infix nonempty joined
    rcases side with rfl | rfl
    · exact ⟨xs, ns ++ ys, rfl, rfl⟩
    · refine ⟨xs ++ ns, ys, by rw [List.append_assoc], ?_⟩
      rw [Utf8.encode_append, List.length_append]

theorem BetweenChars.boundary (between : BetweenChars (Utf8.encode cs) place) :
    Utf8.Boundary cs place := by
  obtain ⟨count, rfl⟩ := between
  refine ⟨cs.take count, cs.drop count, (List.take_append_drop count cs).symm, ?_⟩
  rw [Utf8.chars_encode, ← List.map_take, Utf8.flatten_map_encodeChar]

theorem BetweenTokens.boundary {separator : Option (List UInt8)}
    (encoded : ∀ needle ∈ separator, Utf8.Valid needle)
    (between : BetweenTokens separator (Utf8.encode cs) place) : Utf8.Boundary cs place := by
  cases separator with
  | none => exact NextTo.boundary (fun _ => isAsciiSpace_ascii) between
  | some needle =>
      cases needle with
      | nil => exact NextTo.boundary (fun _ => isAsciiSpace_ascii) between
      | cons first others =>
          obtain ⟨ns, spelled⟩ := encoded _ rfl
          change NextToWhole (first :: others) (Utf8.encode cs) place at between
          rw [← spelled] at between
          refine between.boundary ?_
          rintro rfl
          cases spelled

end

end RowText
