import RowText.RowString.Chars
import RowText.Proofs.Content
import Mathlib.Data.List.Basic

namespace RowText

theorem drop_take_eq_nil {α : Type} {xs : List α} {start stop : Nat}
    (outside : stop ≤ start ∨ xs.length ≤ start) : (xs.take stop).drop start = [] := by
  apply List.drop_eq_nil_of_le
  rw [List.length_take]
  omega

namespace Utf8

theorem take_flatten_length_le (pieces : List (List UInt8)) (count : Nat) :
    (pieces.take count).flatten.length ≤ pieces.flatten.length := by
  conv_rhs => rw [← List.take_append_drop count pieces, List.flatten_append, List.length_append]
  omega

theorem byteSlice_flatten (pieces : List (List UInt8)) {i j : Nat} (le : i ≤ j) :
    byteSlice pieces.flatten (pieces.take i).flatten.length (pieces.take j).flatten.length =
      ((pieces.take j).drop i).flatten := by
  have first : pieces.take j = pieces.take i ++ (pieces.take j).drop i := by
    conv_lhs => rw [← List.take_append_drop i (pieces.take j), List.take_take, Nat.min_eq_left le]
  have whole : pieces.flatten = (pieces.take i).flatten ++ (((pieces.take j).drop i).flatten ++
      (pieces.drop j).flatten) := by
    rw [← List.append_assoc, ← List.flatten_append, ← first, ← List.flatten_append,
      List.take_append_drop]
  have lengths := congrArg (fun part => part.flatten.length) first
  simp only [List.flatten_append, List.length_append] at lengths
  rw [byteSlice, lengths, Nat.add_sub_cancel_left, whole, List.drop_left, List.take_left]

@[simp] theorem rangesFrom_length (offset : Nat) (pieces : List (List UInt8)) :
    (rangesFrom offset pieces).length = pieces.length := by
  induction pieces generalizing offset with
  | nil => rfl
  | cons piece rest ih => rw [rangesFrom, List.length_cons, ih, List.length_cons]

theorem rangesFrom_getElem? (offset : Nat) (pieces : List (List UInt8)) (i : Nat) :
    (rangesFrom offset pieces)[i]? = pieces[i]?.map fun _ =>
      (offset + (pieces.take i).flatten.length, offset + (pieces.take (i + 1)).flatten.length) := by
  induction pieces generalizing offset i with
  | nil => simp [rangesFrom]
  | cons piece rest ih =>
      cases i with
      | zero => simp [rangesFrom]
      | succ i =>
          rw [rangesFrom, List.getElem?_cons_succ, ih, List.getElem?_cons_succ]
          simp only [List.take_succ_cons, List.flatten_cons, List.length_append, Nat.add_assoc]

@[simp] theorem chars_flatten (bytes : List UInt8) : (chars bytes).flatten = bytes := by
  fun_induction chars bytes with
  | case1 => rfl
  | case2 lead rest ih =>
      rw [List.flatten_cons, ih, List.cons_append, List.take_append_drop]

def Complete : List UInt8 → Prop
  | [] => False
  | lead :: tail => tail.length + 1 = leadWidth lead

theorem chars_append {piece : List UInt8} (complete : Complete piece) (rest : List UInt8) :
    chars (piece ++ rest) = piece :: chars rest := by
  cases piece with
  | nil => exact complete.elim
  | cons lead tail =>
      have width : leadWidth lead - 1 = tail.length := by
        rw [← show tail.length + 1 = leadWidth lead from complete, Nat.add_sub_cancel]
      rw [List.cons_append, chars, width, List.take_left, List.drop_left]

theorem chars_length_le (bytes : List UInt8) : (chars bytes).length ≤ bytes.length := by
  fun_induction chars bytes with
  | case1 => exact Nat.le_refl 0
  | case2 lead rest ih =>
      rw [List.length_drop] at ih
      rw [List.length_cons, List.length_cons]
      omega

theorem countChunk_spec (skip : Nat) (chunk behind : List UInt8) :
    (chars ((chunk ++ behind).drop skip)).length =
      (countChunk skip chunk).1 + (chars (behind.drop (countChunk skip chunk).2)).length := by
  fun_induction countChunk skip chunk with
  | case1 skip chunk none =>
      have past : chunk.length ≤ skip := List.drop_eq_nil_iff.mp none
      rw [List.drop_append, none, List.nil_append, Nat.zero_add]
  | case2 skip chunk lead rest here count owed counted ih =>
      have inside : skip ≤ chunk.length := by
        by_contra past
        rw [List.drop_eq_nil_of_le (by omega)] at here
        cases here
      rw [counted] at ih
      rw [List.drop_append_of_le_length inside, here, List.cons_append, chars, List.length_cons, ih,
        Nat.add_right_comm]

theorem countCharsFrom_eq (owed : Nat) (chunks : List (List UInt8)) :
    countCharsFrom owed chunks = (chars (chunks.flatten.drop owed)).length := by
  induction chunks generalizing owed with
  | nil => simp [countCharsFrom, chars]
  | cons chunk rest ih =>
      rw [List.flatten_cons, countChunk_spec, ← ih]
      rfl

theorem countChars_eq (chunks : List (List UInt8)) :
    countChars chunks = (chars chunks.flatten).length :=
  countCharsFrom_eq 0 chunks

theorem subrange?_eq (bytes : List UInt8) (start stop : Nat) :
    subrange? bytes start stop =
      if start < (chars bytes).length then
        some (((chars bytes).take start).flatten.length, ((chars bytes).take stop).flatten.length)
      else none := by
  unfold subrange? charRanges
  simp only [rangesFrom_getElem?, Nat.zero_add]
  by_cases within : start < (chars bytes).length
  · rw [if_pos within, List.getElem?_eq_getElem within]
    by_cases stopWithin : stop < (chars bytes).length
    · rw [List.getElem?_eq_getElem stopWithin]
      rfl
    · rw [List.getElem?_eq_none (by omega), List.take_of_length_le (i := stop) (by omega),
        chars_flatten]
      rfl
  · rw [if_neg within, List.getElem?_eq_none (by omega)]
    rfl

end Utf8

namespace RowString

variable {s : RowString}

theorem numChars_eq (s : RowString) : s.numChars = (Utf8.chars s.content).length := by
  unfold numChars
  cases inPlace : s.contiguousBytes? with
  | some bytes =>
      change Utf8.countChars [bytes] = _
      rw [Utf8.countChars_eq, contiguousBytes?_eq inPlace, List.flatten_singleton]
  | none =>
      change Utf8.countChars s.span.chunks = _
      rw [Utf8.countChars_eq, Span.chunks_flatten, span_content_of_gathered inPlace]

theorem substring_content (wellFormed : s.WellFormed) (start stop : Nat) :
    (s.substring start stop).content = (((Utf8.chars s.content).take stop).drop start).flatten := by
  unfold substring substringRange?
  rw [length_eq wellFormed, bytes_eq, Utf8.subrange?_eq]
  by_cases outside : stop ≤ start ∨ s.content.length ≤ start
  · have few := Utf8.chars_length_le s.content
    rw [if_pos outside, drop_take_eq_nil (by omega)]
    rfl
  by_cases within : start < (Utf8.chars s.content).length
  · have bound := Utf8.take_flatten_length_le (Utf8.chars s.content) stop
    have cut := Utf8.byteSlice_flatten (Utf8.chars s.content) (i := start) (j := stop) (by omega)
    rw [Utf8.chars_flatten] at bound cut
    rw [if_neg outside, if_pos within, ← cut]
    exact sliceBytes_content wellFormed bound
  · rw [if_neg outside, if_neg within, drop_take_eq_nil (by omega)]
    rfl

theorem reverse_content (wellFormed : s.WellFormed) :
    s.reverse.content = Utf8.reverseChars s.content := by
  unfold reverse
  rw [isEmpty_eq wellFormed, bytes_eq]
  cases content : s.content with
  | nil => simp [Utf8.reverseChars, Utf8.chars]
  | cons byte rest => rfl

end RowString

end RowText
