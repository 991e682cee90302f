import RowText.Proofs.Order
import RowText.Proofs.SortKey
import Mathlib.Data.List.TakeDrop

/-!
# The order of sort keys

A key is the content cut to its width, with the pad behind a shorter one (`writtenKey_eq`). The pad
is the least byte, so keys never invert the order of the strings (`keys_then_compareTo`). It may be
a byte of a content too, so keys agree if and only if one of the cut contents is the other one with
pads behind it (`keys_precision`); `keys_confuse_pad` is the smallest such pair.
-/

namespace RowText

theorem takeD_eq_append {α : Type} (width : Nat) (xs : List α) (pad : α) :
    xs.takeD width pad = xs.take width ++ List.replicate (width - xs.length) pad := by
  induction width generalizing xs with
  | zero => simp
  | succ width ih =>
      cases xs with
      | nil => simp [List.replicate_succ]
      | cons x xs => simp [ih]

theorem compare_nil_ne_lt (xs : List UInt8) : compare xs [] ≠ .lt := by
  cases xs <;> simp

theorem compare_of_compare_takeD_lt {width : Nat} {xs ys : List UInt8}
    (less : compare (xs.takeD width keyPad) (ys.takeD width keyPad) = .lt) :
    compare xs ys = .lt := by
  -- The pad is the least byte, so it decides only where the shorter sequence has ended.
  induction width generalizing xs ys with
  | zero => simp at less
  | succ width ih =>
      rw [List.takeD_succ, List.takeD_succ, List.compare_cons_cons, Ordering.then_eq_lt,
        Std.compare_eq_lt, Std.compare_eq_iff_eq] at less
      cases ys with
      | nil =>
          -- No key is below the one made of pads alone.
          rcases less with low | ⟨_, later⟩
          · exact absurd low (UInt8.not_lt.mpr (UInt8.le_iff_toNat_le.mpr (Nat.zero_le _)))
          · exact absurd (ih later) (compare_nil_ne_lt _)
      | cons y ys =>
          cases xs with
          | nil => rfl
          | cons x xs =>
              rw [List.compare_cons_cons, Ordering.then_eq_lt, Std.compare_eq_lt,
                Std.compare_eq_iff_eq]
              exact less.imp_right fun ⟨same, later⟩ => ⟨same, ih later⟩

theorem compare_of_compare_takeD {width : Nat} {xs ys : List UInt8}
    (differs : compare (xs.takeD width keyPad) (ys.takeD width keyPad) ≠ .eq) :
    compare (xs.takeD width keyPad) (ys.takeD width keyPad) = compare xs ys := by
  cases order : compare (xs.takeD width keyPad) (ys.takeD width keyPad) with
  | eq => exact absurd order differs
  | lt => exact (compare_of_compare_takeD_lt order).symm
  | gt =>
      rw [Std.OrientedCmp.gt_iff_lt] at order
      exact (Std.OrientedCmp.gt_iff_lt.mpr (compare_of_compare_takeD_lt order)).symm

theorem takeD_eq_of_padded {α : Type} {width count : Nat} {xs ys : List α} {pad : α}
    (padded : ys.take width = xs.take width ++ List.replicate count pad) :
    xs.takeD width pad = ys.takeD width pad := by
  have lengths := congrArg List.length padded
  simp only [List.length_append, List.length_take, List.length_replicate] at lengths
  have pads : width - xs.length = count + (width - ys.length) := by omega
  rw [takeD_eq_append, takeD_eq_append, padded, List.append_assoc, List.replicate_append_replicate,
    pads]

theorem takeD_eq_takeD_iff {α : Type} {width : Nat} {xs ys : List α} {pad : α} :
    xs.takeD width pad = ys.takeD width pad ↔
      ∃ count, xs.take width = ys.take width ++ List.replicate count pad ∨
        ys.take width = xs.take width ++ List.replicate count pad := by
  constructor
  · intro same
    rw [takeD_eq_append, takeD_eq_append, List.append_eq_append_iff] at same
    rcases same with ⟨more, longer, pads⟩ | ⟨more, longer, pads⟩
    · have ⟨_, onlyPads, _⟩ := List.append_eq_replicate_iff.mp pads.symm
      exact ⟨more.length, Or.inr (by rwa [← onlyPads])⟩
    · have ⟨_, onlyPads, _⟩ := List.append_eq_replicate_iff.mp pads.symm
      exact ⟨more.length, Or.inl (by rwa [← onlyPads])⟩
  · rintro ⟨count, padded | padded⟩
    · exact (takeD_eq_of_padded padded).symm
    · exact takeD_eq_of_padded padded

theorem eq_of_padded {α : Type} {xs ys : List α} {count : Nat} {pad : α}
    (padded : ys = xs ++ List.replicate count pad) (padless : pad ∉ ys) : ys = xs := by
  cases count with
  | zero => rw [padded, List.replicate_zero, List.append_nil]
  | succ count => exact absurd (by simp [padded, List.replicate_succ]) padless

namespace Buffer

structure Room (b : Buffer) (offset width : Nat) : Prop where
  isWord : b.size < Word.limit
  within : offset + width ≤ b.size

def writtenKey (b : Buffer) (s : RowString) (offset width : Nat) : List UInt8 :=
  byteSlice (b.putKey s offset width).buffer.bytes offset (offset + width)

variable {b : Buffer} {s : RowString} {offset width : Nat}

theorem putKey_of_room (wellFormed : s.WellFormed) (room : b.Room offset width) :
    b.putKey s offset width =
      ⟨.ok (), ⟨overwrite b.bytes offset (s.content.takeD width keyPad)⟩⟩ := by
  have fits : checkRange offset width b.size = .ok () :=
    checkRange_ok (Nat.lt_of_le_of_lt room.within room.isWord) room.within
  have inside : offset ≤ b.bytes.length := Nat.le_trans (Nat.le_add_right _ _) room.within
  have short : (s.content.take width).length ≤ (List.replicate width keyPad).length := by
    simp
  have padsLeft : width - min width s.content.length = width - s.content.length := by omega
  rw [putKey_eq b wellFormed, fits]
  dsimp only
  rw [overwrite_shorter inside short, List.drop_replicate, List.length_take, padsLeft,
    takeD_eq_append]

theorem writtenKey_eq (wellFormed : s.WellFormed) (room : b.Room offset width) :
    b.writtenKey s offset width = s.content.takeD width keyPad := by
  have inside : offset ≤ b.bytes.length := Nat.le_trans (Nat.le_add_right _ _) room.within
  have read := byteSlice_overwrite inside (s.content.takeD width keyPad)
  rw [List.takeD_length] at read
  rw [writtenKey, putKey_of_room wellFormed room, read]

end Buffer

namespace RowString

variable {a b : RowString} {t u : Buffer} {i j width : Nat}

theorem compareKeys_written (ha : a.WellFormed) (hb : b.WellFormed) (tRoom : t.Room i width)
    (uRoom : u.Room j width) :
    compareKeys (t.writtenKey a i width) (u.writtenKey b j width) =
      compare (a.content.takeD width keyPad) (b.content.takeD width keyPad) := by
  rw [compareKeys, Buffer.writtenKey_eq ha tRoom, Buffer.writtenKey_eq hb uRoom]

theorem compareKeys_of_ne (ha : a.WellFormed) (hb : b.WellFormed) (tRoom : t.Room i width)
    (uRoom : u.Room j width)
    (differ : compareKeys (t.writtenKey a i width) (u.writtenKey b j width) ≠ .eq) :
    compareKeys (t.writtenKey a i width) (u.writtenKey b j width) = a.compareTo b := by
  rw [compareKeys_written ha hb tRoom uRoom] at differ ⊢
  rw [compareTo_content ha hb]
  exact compare_of_compare_takeD differ

/-- Ordering by key, and by the whole strings only where the keys agree, is ordering by the
strings. -/
theorem keys_then_compareTo (ha : a.WellFormed) (hb : b.WellFormed) (tRoom : t.Room i width)
    (uRoom : u.Room j width) :
    (t.putKey a i width).outcome = .ok () ∧ (u.putKey b j width).outcome = .ok () ∧
      (compareKeys (t.writtenKey a i width) (u.writtenKey b j width)).then (a.compareTo b) =
        a.compareTo b ∧
      (compareKeys (t.writtenKey a i width) (u.writtenKey b j width) = .lt →
        a.compareTo b = .lt) ∧
      (compareKeys (t.writtenKey a i width) (u.writtenKey b j width) = .gt →
        a.compareTo b = .gt) := by
  have sound := compareKeys_of_ne ha hb tRoom uRoom
  refine ⟨by rw [Buffer.putKey_of_room ha tRoom], by rw [Buffer.putKey_of_room hb uRoom], ?_,
    ?_, ?_⟩
  · cases order : compareKeys (t.writtenKey a i width) (u.writtenKey b j width) with
    | eq => rw [Ordering.eq_then]
    | lt => rw [← sound (by simp [order]), order, Ordering.lt_then]
    | gt => rw [← sound (by simp [order]), order, Ordering.gt_then]
  · intro less
    rw [← sound (by simp [less]), less]
  · intro greater
    rw [← sound (by simp [greater]), greater]

def fiveBytes : Buffer := ⟨[0xFF, 0xFF, 0xFF, 0xFF, 0xFF]⟩

theorem keys_then_compareTo_straddling :
    straddling.WellFormed ∧ fiveBytes.Room 1 4 ∧ fiveBytes.Room 0 4 ∧
      (compareKeys (fiveBytes.writtenKey straddling 1 4)
        (fiveBytes.writtenKey (ofText "1.5\x00") 0 4)).then
          (straddling.compareTo (ofText "1.5\x00")) = .lt ∧
      straddling.compareTo (ofText "1.6") = .lt := by
  have behind : fiveBytes.Room 1 4 := ⟨by decide, by decide⟩
  have front : fiveBytes.Room 0 4 := ⟨by decide, by decide⟩
  have ⟨_, _, tied, _, _⟩ :=
    keys_then_compareTo straddling_wellFormed (ofText_wellFormed "1.5\x00") behind front
  have ⟨_, _, _, less, _⟩ :=
    keys_then_compareTo straddling_wellFormed (ofText_wellFormed "1.6") behind front
  refine ⟨straddling_wellFormed, behind, front, ?_, less (by decide)⟩
  rw [tied, compareTo_content straddling_wellFormed (ofText_wellFormed _)]
  decide

/-- Keys agree if the cut contents do but for pads at the end of one of them, and only then. -/
theorem keys_precision (ha : a.WellFormed) (hb : b.WellFormed) (tRoom : t.Room i width)
    (uRoom : u.Room j width) :
    (t.putKey a i width).outcome = .ok () ∧ (u.putKey b j width).outcome = .ok () ∧
      (compareKeys (t.writtenKey a i width) (u.writtenKey b j width) = .eq ↔
        ∃ count,
          a.content.take width = b.content.take width ++ List.replicate count keyPad ∨
            b.content.take width = a.content.take width ++ List.replicate count keyPad) ∧
      (compareKeys (t.writtenKey a i width) (u.writtenKey b j width) ≠ .eq →
        compareKeys (t.writtenKey a i width) (u.writtenKey b j width) = a.compareTo b) ∧
      (keyPad ∉ a.content.take width → keyPad ∉ b.content.take width →
        (compareKeys (t.writtenKey a i width) (u.writtenKey b j width) = .eq ↔
          a.content.take width = b.content.take width)) := by
  have agree : compareKeys (t.writtenKey a i width) (u.writtenKey b j width) = .eq ↔ ∃ count,
      a.content.take width = b.content.take width ++ List.replicate count keyPad ∨
        b.content.take width = a.content.take width ++ List.replicate count keyPad := by
    rw [compareKeys_written ha hb tRoom uRoom, Std.LawfulEqCmp.compare_eq_iff_eq,
      takeD_eq_takeD_iff]
  refine ⟨by rw [Buffer.putKey_of_room ha tRoom], by rw [Buffer.putKey_of_room hb uRoom], agree,
    compareKeys_of_ne ha hb tRoom uRoom, ?_⟩
  intro aPadless bPadless
  rw [agree]
  constructor
  · rintro ⟨count, padded | padded⟩
    · exact eq_of_padded padded aPadless
    · exact (eq_of_padded padded bPadless).symm
  · intro same
    exact ⟨0, Or.inl (by rw [same, List.replicate_zero, List.append_nil])⟩

theorem keys_precision_straddling :
    straddling.WellFormed ∧ fiveBytes.Room 1 2 ∧ fiveBytes.Room 1 4 ∧
      compareKeys (fiveBytes.writtenKey straddling 1 2)
        (fiveBytes.writtenKey (ofText "1.6") 1 2) = .eq ∧
      compareKeys (fiveBytes.writtenKey straddling 1 4)
        (fiveBytes.writtenKey (ofText "1.5\x00") 1 4) = .eq := by
  have narrow : fiveBytes.Room 1 2 := ⟨by decide, by decide⟩
  have wide : fiveBytes.Room 1 4 := ⟨by decide, by decide⟩
  have ⟨_, _, _, _, padless⟩ :=
    keys_precision straddling_wellFormed (ofText_wellFormed "1.6") narrow narrow
  have ⟨_, _, agree, _, _⟩ :=
    keys_precision straddling_wellFormed (ofText_wellFormed "1.5\x00") wide wide
  refine ⟨straddling_wellFormed, narrow, wide, ?_, agree.mpr ⟨1, Or.inr (by decide)⟩⟩
  exact (padless (by decide) (by decide)).mpr (by decide)

/-- A string that is one pad has the key of the empty string, whose first byte it does not share. -/
theorem keys_confuse_pad :
    compareKeys (fiveBytes.writtenKey (ofBytes []) 0 1)
        (fiveBytes.writtenKey (ofBytes [0x00]) 0 1) = .eq ∧
      (ofBytes []).content.take 1 ≠ (ofBytes [0x00]).content.take 1 ∧
      (ofBytes []).compareTo (ofBytes [0x00]) = .lt := by
  decide

end RowString

end RowText
