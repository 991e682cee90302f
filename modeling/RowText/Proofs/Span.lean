import RowText.Span
import Mathlib.Data.List.Basic

namespace RowText

theorem byteSlice_add (bytes : List UInt8) (start length : Nat) :
    byteSlice bytes start (start + length) = (bytes.drop start).take length := by
  rw [byteSlice, Nat.add_sub_cancel_left]

@[simp] theorem byteSlice_zero_length (bytes : List UInt8) :
    byteSlice bytes 0 bytes.length = bytes := by
  simp [byteSlice]

theorem byteSlice_eq_nil {bytes : List UInt8} {start stop : Nat} (empty : stop ≤ start) :
    byteSlice bytes start stop = [] := by
  rw [byteSlice, Nat.sub_eq_zero_of_le empty, List.take_zero]

theorem byteSlice_min (bytes : List UInt8) (start length : Nat) :
    byteSlice bytes start (start + min (bytes.length - start) length) =
      (bytes.drop start).take length := by
  rw [byteSlice_add, ← List.length_drop, Nat.min_comm, ← List.take_take, List.take_length]

theorem byteSlice_byteSlice {bytes : List UInt8} {offset length start stop : Nat}
    (within : stop ≤ length) :
    byteSlice (byteSlice bytes offset (offset + length)) start stop =
      byteSlice bytes (offset + start) (offset + start + (stop - start)) := by
  simp only [byteSlice, Nat.add_sub_cancel_left, List.drop_take, List.take_take, List.drop_drop]
  congr 1
  omega

theorem byteSlice_length {bytes : List UInt8} {start stop : Nat} (within : stop ≤ bytes.length) :
    (byteSlice bytes start stop).length = stop - start := by
  rw [byteSlice, List.length_take, List.length_drop]
  omega

theorem byteSlice_within {bytes : List UInt8} {start stop lower upper : Nat} (ordered : start ≤ stop)
    (within : upper ≤ stop - start) :
    byteSlice (byteSlice bytes start stop) lower upper =
      byteSlice bytes (start + lower) (start + upper) := by
  have shifted : byteSlice (byteSlice bytes start (start + (stop - start))) lower upper = _ :=
    byteSlice_byteSlice within
  rw [Nat.add_sub_cancel' ordered] at shifted
  rw [shifted, byteSlice_add, byteSlice, Nat.add_sub_add_left]

theorem totalSize_eq (segments : List Segment) :
    totalSize segments = (segments.flatMap Segment.bytes).length := by
  induction segments with
  | nil => rfl
  | cons segment rest ih =>
      rw [totalSize, List.flatMap_cons, List.length_append, ih, Segment.size]

namespace Span

theorem content_eq (s : Span) :
    s.content = ((s.segments.flatMap Segment.bytes).drop s.offset).take s.length :=
  byteSlice_add _ _ _

theorem content_length {s : Span} (fits : s.offset + s.length ≤ totalSize s.segments) :
    s.content.length = s.length := by
  rw [totalSize_eq] at fits
  rw [content_eq, List.length_take, List.length_drop]
  omega

theorem contiguous?_eq {s : Span} {bytes : List UInt8} (inPlace : s.contiguous? = some bytes) :
    bytes = s.content := by
  unfold contiguous? at inPlace
  by_cases none : s.length = 0
  · simp only [none, if_true, Option.some.injEq] at inPlace
    rw [content_eq, none, List.take_zero, inPlace]
  · rw [if_neg none] at inPlace
    cases layout : s.segments with
    | nil => simp [layout] at inPlace
    | cons first rest =>
        simp only [layout, Option.ite_none_right_eq_some, Option.some.injEq] at inPlace
        obtain ⟨inFirst, rfl⟩ := inPlace
        rw [Segment.size] at inFirst
        rw [byteSlice_add, content_eq, layout, List.flatMap_cons,
          List.drop_append_of_le_length (by omega), List.take_append_of_le_length]
        rw [List.length_drop]
        omega

theorem chunksFrom_flatten (segments : List Segment) (offset remaining : Nat) :
    (chunksFrom segments offset remaining).flatten =
      ((segments.flatMap Segment.bytes).drop offset).take remaining := by
  induction segments generalizing offset remaining with
  | nil => simp [chunksFrom]
  | cons segment rest ih =>
      rw [chunksFrom, List.flatMap_cons]
      by_cases done : remaining = 0
      · simp [done]
      by_cases past : segment.size ≤ offset
      · rw [if_neg done, if_pos past, ih, List.drop_append, Segment.size,
          List.drop_eq_nil_of_le past, List.nil_append]
      · rw [if_neg done, if_neg past]
        rw [Segment.size] at past
        simp only [List.flatten_cons, Segment.size, byteSlice_min, ih, List.drop_zero]
        rw [List.drop_append_of_le_length (by omega), List.take_append, List.length_drop]
        congr 2
        omega

@[simp] theorem chunks_flatten (s : Span) : s.chunks.flatten = s.content := by
  rw [chunks, chunksFrom_flatten, content_eq]

@[simp] theorem bytes_eq (s : Span) : s.bytes = s.content := by
  unfold bytes
  cases inPlace : s.contiguous? with
  | some bytes => exact contiguous?_eq inPlace
  | none => exact s.chunks_flatten

theorem byteInChunks?_eq (chunks : List (List UInt8)) (index : Nat) :
    byteInChunks? chunks index = chunks.flatten[index]? := by
  induction chunks generalizing index with
  | nil => rfl
  | cons chunk rest ih =>
      rw [byteInChunks?, List.flatten_cons]
      by_cases here : index < chunk.length
      · rw [if_pos here, List.getElem?_append_left here]
      · rw [if_neg here, ih, List.getElem?_append_right (Nat.le_of_not_lt here)]

@[simp] theorem byte?_eq (s : Span) (index : Nat) : s.byte? index = s.content[index]? := by
  unfold byte?
  by_cases past : s.length ≤ index
  · rw [if_pos past, content_eq, List.getElem?_eq_none (by rw [List.length_take]; omega)]
  · rw [if_neg past, byteInChunks?_eq, chunks_flatten]

theorem compare_succ_succ (a b : Nat) : compare (a + 1) (b + 1) = compare a b := by
  simp [compare, compareOfLessAndEq]

theorem firstDifference_getD (lhs rhs : List (List UInt8)) :
    (firstDifference lhs rhs).getD (compare lhs.flatten.length rhs.flatten.length) =
      compare lhs.flatten rhs.flatten := by
  -- Where one side runs dry, the lengths decide; otherwise the first difference does.
  fun_induction firstDifference lhs rhs with
  | case1 rhs =>
      cases rhs.flatten with
      | nil => rfl
      | cons b bs => simp [Nat.compare_eq_lt]
  | case2 lhs rhs ih => simpa using ih
  | case3 a as lhs => simp [Nat.compare_eq_gt]
  | case4 a as lhs rhs ih => simpa using ih
  | case5 a as lhs b bs rhs same ih =>
      simp only [List.flatten_cons, List.cons_append, List.compare_cons_cons, same,
        Ordering.eq_then, List.length_cons, compare_succ_succ] at ih ⊢
      exact ih
  | case6 a as lhs b bs rhs differs =>
      simp only [List.flatten_cons, List.cons_append, List.compare_cons_cons, Option.getD_some]
      cases order : compare a b with
      | eq => exact absurd order differs
      | lt => rfl
      | gt => rfl

theorem compareTo_eq {lhs rhs : Span} (lhsFits : lhs.offset + lhs.length ≤ totalSize lhs.segments)
    (rhsFits : rhs.offset + rhs.length ≤ totalSize rhs.segments) :
    lhs.compareTo rhs = compare lhs.content rhs.content := by
  have walked : (firstDifference lhs.chunks rhs.chunks).getD (compare lhs.length rhs.length) =
      compare lhs.content rhs.content := by
    rw [← chunks_flatten lhs, ← chunks_flatten rhs, ← firstDifference_getD, chunks_flatten,
      chunks_flatten, content_length lhsFits, content_length rhsFits]
  unfold compareTo
  cases lhsInPlace : lhs.contiguous? with
  | none => exact walked
  | some a =>
      cases rhsInPlace : rhs.contiguous? with
      | none => exact walked
      | some b => rw [contiguous?_eq lhsInPlace, contiguous?_eq rhsInPlace]

end Span

end RowText
