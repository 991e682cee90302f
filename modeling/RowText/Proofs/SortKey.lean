import RowText.RowString.SortKey
import RowText.Proofs.Accesses
import RowText.Proofs.Content

namespace RowText

@[simp] theorem overwrite_nil (bytes : List UInt8) (offset : Nat) :
    overwrite bytes offset [] = bytes := by
  simp [overwrite]

theorem overwrite_length {bytes data : List UInt8} {offset : Nat}
    (within : offset + data.length ≤ bytes.length) :
    (overwrite bytes offset data).length = bytes.length := by
  simp only [overwrite, List.length_append, List.length_take, List.length_drop]
  omega

theorem overwrite_overwrite {bytes : List UInt8} {offset : Nat} (within : offset ≤ bytes.length)
    (first second : List UInt8) :
    overwrite (overwrite bytes offset first) (offset + first.length) second =
      overwrite bytes offset (first ++ second) := by
  have front : (bytes.take offset ++ first).length = offset + first.length := by
    rw [List.length_append, List.length_take, Nat.min_eq_left within]
  unfold overwrite
  rw [List.take_left' front, ← front, List.drop_length_add_append, front, List.drop_drop,
    List.length_append, Nat.add_assoc]
  simp only [List.append_assoc]

theorem byteSlice_overwrite {bytes : List UInt8} {offset : Nat} (inside : offset ≤ bytes.length)
    (data : List UInt8) : byteSlice (overwrite bytes offset data) offset (offset + data.length) =
      data := by
  have front : (bytes.take offset).length = offset := by
    rw [List.length_take, Nat.min_eq_left inside]
  rw [byteSlice_add, overwrite, List.append_assoc, List.drop_left' front, List.take_left]

theorem overwrite_shorter {bytes first second : List UInt8} {offset : Nat}
    (inside : offset ≤ bytes.length) (short : second.length ≤ first.length) :
    overwrite (overwrite bytes offset first) offset second =
      overwrite bytes offset (second ++ first.drop second.length) := by
  have front : (bytes.take offset).length = offset := by
    rw [List.length_take, Nat.min_eq_left inside]
  have stop : (second ++ first.drop second.length).length = first.length := by
    rw [List.length_append, List.length_drop]
    omega
  have behind : (bytes.take offset ++ (first ++ bytes.drop (offset + first.length))).drop
      (offset + second.length) =
        first.drop second.length ++ bytes.drop (offset + first.length) := by
    rw [List.drop_append, List.drop_eq_nil_of_le (by omega), front, Nat.add_sub_cancel_left,
      List.nil_append, List.drop_append_of_le_length short]
  unfold overwrite
  rw [List.append_assoc (bytes.take offset) first, List.take_left' front, behind, stop]
  simp only [List.append_assoc]

namespace Buffer

theorem put_eq {b : Buffer} {offset : Nat} {data : List UInt8}
    (isWord : offset + data.length < Word.limit) (within : offset + data.length ≤ b.size) :
    b.put offset data = ⟨.ok (), ⟨overwrite b.bytes offset data⟩⟩ := by
  rw [put, checkRange_ok isWord within]

theorem putChunks_eq (chunks : List (List UInt8)) {b : Buffer} {position remaining : Nat}
    (isWord : position + remaining < Word.limit) (within : position + remaining ≤ b.size) :
    b.putChunks position remaining chunks =
      ⟨.ok (), ⟨overwrite b.bytes position (chunks.flatten.take remaining)⟩⟩ := by
  induction chunks generalizing b position remaining with
  | nil => simp [putChunks]
  | cons chunk rest ih =>
      unfold putChunks
      by_cases done : remaining = 0
      · simp [done]
      · have short : (chunk.take remaining).length ≤ remaining := List.length_take_le _ _
        rw [if_neg done]
        dsimp only
        have roomier : (overwrite b.bytes position (chunk.take remaining)).length = b.size :=
          overwrite_length (Nat.le_trans (Nat.add_le_add_left short _) within)
        rw [put_eq (by omega) (by omega)]
        change putChunks ⟨overwrite b.bytes position (chunk.take remaining)⟩ _ _ rest = _
        have left : remaining - (chunk.take remaining).length = remaining - chunk.length := by
          rw [List.length_take]
          omega
        rw [ih (by omega) (by rw [size, roomier]; omega),
          overwrite_overwrite (Nat.le_trans (Nat.le_add_right _ _) within), List.flatten_cons,
          List.take_append, left]

theorem putKey_eq (b : Buffer) {s : RowString} (wellFormed : s.WellFormed) (offset width : Nat) :
    b.putKey s offset width =
      match checkRange offset width b.size with
      | .ok () => ⟨.ok (), ⟨overwrite (overwrite b.bytes offset (List.replicate width keyPad)) offset
          (s.content.take width)⟩⟩
      | .error fault => ⟨.error fault, b⟩ := by
  rw [putKey_eq_andThen, fill]
  cases fits : checkRange offset width b.size with
  | error fault => rfl
  | ok _ =>
      have ⟨isWord, within⟩ := of_checkRange_ok fits
      have padded : (overwrite b.bytes offset (List.replicate width keyPad)).length = b.size :=
        overwrite_length (by rw [List.length_replicate]; exact within)
      change putChunks ⟨overwrite b.bytes offset (List.replicate width keyPad)⟩ _ _ _ = _
      rw [putChunks_eq _ isWord (by rw [size, padded]; exact within), Span.chunks_flatten,
        (RowString.span_spec wellFormed).1]

end Buffer

end RowText
