import RowText.Utf8.Decode
import Mathlib.Algebra.Ring.Nat
import Mathlib.Data.List.Basic

namespace RowText.Utf8

theorem startChar_ascii {n : Nat} (ascii : n < 0x80) :
    startChar (.ofNat n) = ([Char.ofNat n], none) := by
  have value : (UInt8.ofNat n).toNat = n := UInt8.toNat_ofNat_of_lt' (by simp [UInt8.size]; omega)
  simp [startChar, UInt8.lt_iff_toNat_lt, value, ascii]

theorem startChar_two {n : Nat} (low : 0xC2 ≤ n) (high : n < 0xE0) :
    startChar (.ofNat n) = ([], some ⟨n - 0xC0, 1, 0x80, 0xBF⟩) := by
  have value : (UInt8.ofNat n).toNat = n := UInt8.toNat_ofNat_of_lt' (by simp [UInt8.size]; omega)
  simp only [startChar, UInt8.lt_iff_toNat_lt, value]
  grind

theorem startChar_three {n : Nat} (low : 0xE0 ≤ n) (high : n < 0xF0) :
    startChar (.ofNat n) =
      ([], some ⟨n - 0xE0, 2, if n = 0xE0 then 0xA0 else 0x80, if n = 0xED then 0x9F else 0xBF⟩) := by
  have value : (UInt8.ofNat n).toNat = n := UInt8.toNat_ofNat_of_lt' (by simp [UInt8.size]; omega)
  simp only [startChar, UInt8.lt_iff_toNat_lt, value, ← UInt8.toNat_inj]
  grind

theorem startChar_four {n : Nat} (low : 0xF0 ≤ n) (high : n < 0xF5) :
    startChar (.ofNat n) =
      ([], some ⟨n - 0xF0, 3, if n = 0xF0 then 0x90 else 0x80, if n = 0xF4 then 0x8F else 0xBF⟩) := by
  have value : (UInt8.ofNat n).toNat = n := UInt8.toNat_ofNat_of_lt' (by simp [UInt8.size]; omega)
  simp only [startChar, UInt8.lt_iff_toNat_lt, value, ← UInt8.toNat_inj]
  grind

theorem continueChar_within {pending : Pending} {n : Nat} (small : n < 0x100)
    (low : pending.low.toNat ≤ n) (high : n ≤ pending.high.toNat) :
    continueChar pending (.ofNat n) =
      if pending.owed ≤ 1 then ([Char.ofNat (pending.code * 0x40 + (n - 0x80))], none)
      else ([], some ⟨pending.code * 0x40 + (n - 0x80), pending.owed - 1, 0x80, 0xBF⟩) := by
  have value : (UInt8.ofNat n).toNat = n := UInt8.toNat_ofNat_of_lt' small
  simp [continueChar, UInt8.le_iff_toNat_le, value, low, high]

theorem decodeFrom_encodeChar (c : Char) (rest : List UInt8) :
    decodeFrom none (encodeChar c ++ rest) = c :: decodeFrom none rest := by
  have back : Char.ofNat c.toNat = c := Char.ofNat_toNat c
  have scalar : c.toNat < 0xD800 ∨ 0xDFFF < c.toNat ∧ c.toNat < 0x110000 := c.valid
  unfold encodeChar
  generalize c.toNat = code at back scalar
  subst back
  -- The bits of the bytes before the last one, and then all bits, make up the code again.
  have last : code / 0x40 * 0x40 + (0x80 + code % 0x40 - 0x80) = code := by omega
  by_cases one : code < 0x80
  · simp [one, decodeFrom, readByte, startChar_ascii]
  by_cases two : code < 0x800
  · simp only [one, two, if_true, if_false, List.cons_append, List.nil_append, decodeFrom, readByte]
    rw [startChar_two (by omega) (by omega), Nat.add_sub_cancel_left]
    simp only [List.nil_append]
    rw [continueChar_within (by omega) (by simp) (by simp; omega), last]
    rfl
  by_cases three : code < 0x10000
  · have middle : code / 0x1000 * 0x40 + (0x80 + code / 0x40 % 0x40 - 0x80) = code / 0x40 := by
      omega
    simp only [one, two, three, if_true, if_false, List.cons_append, List.nil_append, decodeFrom,
      readByte]
    rw [startChar_three (by omega) (by omega), Nat.add_sub_cancel_left]
    simp only [List.nil_append]
    rw [continueChar_within (by omega) (by dsimp only; split <;> simp; omega)
      (by dsimp only; split <;> simp <;> omega), middle]
    simp only [Nat.reduceLeDiff, if_false, List.nil_append]
    rw [continueChar_within (by omega) (by simp) (by simp; omega), last]
    rfl
  · have second : code / 0x40000 * 0x40 + (0x80 + code / 0x1000 % 0x40 - 0x80) = code / 0x1000 := by
      omega
    have third : code / 0x1000 * 0x40 + (0x80 + code / 0x40 % 0x40 - 0x80) = code / 0x40 := by
      omega
    simp only [one, two, three, if_false, List.cons_append, List.nil_append, decodeFrom, readByte]
    rw [startChar_four (by omega) (by omega), Nat.add_sub_cancel_left]
    simp only [List.nil_append]
    rw [continueChar_within (by omega) (by dsimp only; split <;> simp; omega)
      (by dsimp only; split <;> simp <;> omega), second]
    simp only [Nat.reduceLeDiff, if_false, List.nil_append]
    rw [continueChar_within (by omega) (by simp) (by simp; omega), third]
    simp only [Nat.reduceSub, Nat.reduceLeDiff, if_false, List.nil_append]
    rw [continueChar_within (by omega) (by simp) (by simp; omega), last]
    rfl

theorem encode_cons (c : Char) (cs : List Char) : encode (c :: cs) = encodeChar c ++ encode cs :=
  List.flatMap_cons

@[simp] theorem encode_append (cs ds : List Char) : encode (cs ++ ds) = encode cs ++ encode ds :=
  List.flatMap_append

theorem decodeFrom_encode_append (cs : List Char) (rest : List UInt8) :
    decodeFrom none (encode cs ++ rest) = cs ++ decodeFrom none rest := by
  induction cs with
  | nil => rfl
  | cons c cs ih => rw [encode_cons, List.append_assoc, decodeFrom_encodeChar, ih, List.cons_append]

@[simp] theorem decode_encode (cs : List Char) : decode (encode cs) = cs := by
  have read := decodeFrom_encode_append cs []
  rwa [List.append_nil, decodeFrom, List.append_nil] at read

@[simp] theorem decodeText_encodeText (text : String) : decodeText (encodeText text) = text := by
  rw [decodeText, encodeText, decode_encode, String.ofList_toList]

theorem toNat_ofNat_char {n : Nat} (valid : n.isValidChar) : (Char.ofNat n).toNat = n := by
  rw [Char.ofNat, dif_pos valid]
  rfl

theorem encodeChar_ascii {n : Nat} (ascii : n < 0x80) : encodeChar (Char.ofNat n) = [.ofNat n] := by
  rw [encodeChar, toNat_ofNat_char (Or.inl (by omega)), if_pos ascii]

theorem ofNat_wide {n : Nat} (wide : 0x80 ≤ n) (small : n < 0x100) : 0x80 ≤ UInt8.ofNat n := by
  rw [UInt8.le_iff_toNat_le, UInt8.toNat_ofNat_of_lt' small]
  exact wide

theorem wide_of_mem_encodeChar {c : Char} (wide : 0x80 ≤ c.toNat) :
    ∀ byte ∈ encodeChar c, 0x80 ≤ byte := by
  have scalar : c.toNat < 0xD800 ∨ 0xDFFF < c.toNat ∧ c.toNat < 0x110000 := c.valid
  unfold encodeChar
  generalize c.toNat = code at wide scalar
  have last : 0x80 ≤ UInt8.ofNat (0x80 + code % 0x40) := ofNat_wide (by omega) (by omega)
  have middle : 0x80 ≤ UInt8.ofNat (0x80 + code / 0x40 % 0x40) :=
    ofNat_wide (by omega) (by omega)
  have second : 0x80 ≤ UInt8.ofNat (0x80 + code / 0x1000 % 0x40) :=
    ofNat_wide (by omega) (by omega)
  rw [if_neg (by omega)]
  by_cases two : code < 0x800
  · rw [if_pos two]
    simp only [List.forall_mem_cons]
    exact ⟨ofNat_wide (by omega) (by omega), last, nofun⟩
  by_cases three : code < 0x10000
  · rw [if_neg two, if_pos three]
    simp only [List.forall_mem_cons]
    exact ⟨ofNat_wide (by omega) (by omega), middle, last, nofun⟩
  · rw [if_neg two, if_neg three]
    simp only [List.forall_mem_cons]
    exact ⟨ofNat_wide (by omega) (by omega), second, middle, last, nofun⟩

theorem encodeChar_ne_nil (c : Char) : encodeChar c ≠ [] := by
  unfold encodeChar
  dsimp only
  split
  · exact List.cons_ne_nil _ _
  split
  · exact List.cons_ne_nil _ _
  split <;> exact List.cons_ne_nil _ _

theorem encodeChar_wide {c : Char} (wide : 0x80 ≤ c.toNat) :
    ∃ byte ∈ encodeChar c, 0x80 ≤ byte := by
  obtain ⟨byte, member⟩ := List.exists_mem_of_ne_nil _ (encodeChar_ne_nil c)
  exact ⟨byte, member, wide_of_mem_encodeChar wide byte member⟩

def Pending.least (p : Pending) : Nat :=
  (p.code * 0x40 + (p.low.toNat - 0x80)) * 0x40 ^ (p.owed - 1)

def Pending.greatest (p : Pending) : Nat :=
  (p.code * 0x40 + (p.high.toNat - 0x80)) * 0x40 ^ (p.owed - 1) + (0x40 ^ (p.owed - 1) - 1)

structure Pending.Wide (p : Pending) : Prop where
  owed : 1 ≤ p.owed ∧ p.owed ≤ 3
  wide : 0x80 ≤ p.least
  scalar : p.greatest < 0xD800 ∨ 0xDFFF < p.least ∧ p.greatest < 0x110000

theorem startChar_wide {byte : UInt8} (wide : 0x80 ≤ byte) :
    startChar byte = ([replacement], none) ∨ ∃ p, p.Wide ∧ startChar byte = ([], some p) := by
  obtain ⟨n, small, rfl⟩ : ∃ n, n < 0x100 ∧ byte = .ofNat n := ⟨byte.toNat, byte.toNat_lt, by simp⟩
  have value : (UInt8.ofNat n).toNat = n := UInt8.toNat_ofNat_of_lt' small
  simp only [UInt8.le_iff_toNat_le, value, UInt8.reduceToNat] at wide
  by_cases two : 0xC2 ≤ n ∧ n < 0xE0
  · refine Or.inr ⟨_, ⟨by simp, ?_, ?_⟩, startChar_two two.1 two.2⟩
    all_goals simp [Pending.least, Pending.greatest]
    all_goals omega
  by_cases three : 0xE0 ≤ n ∧ n < 0xF0
  · refine Or.inr ⟨_, ⟨by simp, ?_, ?_⟩, startChar_three three.1 three.2⟩
    all_goals simp only [Pending.least, Pending.greatest, apply_ite UInt8.toNat, UInt8.reduceToNat]
    all_goals grind
  by_cases four : 0xF0 ≤ n ∧ n < 0xF5
  · refine Or.inr ⟨_, ⟨by simp, ?_, ?_⟩, startChar_four four.1 four.2⟩
    all_goals simp only [Pending.least, Pending.greatest, apply_ite UInt8.toNat, UInt8.reduceToNat]
    all_goals grind
  · left
    simp only [startChar, UInt8.lt_iff_toNat_lt, value, UInt8.reduceToNat]
    grind

theorem continueChar_wide {p : Pending} (inside : p.Wide) (byte : UInt8) :
    (∃ c ∈ (continueChar p byte).1, 0x80 ≤ c.toNat) ∨
      ∃ next, next.Wide ∧ continueChar p byte = ([], some next) := by
  obtain ⟨n, small, rfl⟩ : ∃ n, n < 0x100 ∧ byte = .ofNat n := ⟨byte.toNat, byte.toNat_lt, by simp⟩
  by_cases within : p.low.toNat ≤ n ∧ n ≤ p.high.toNat
  · rw [continueChar_within small within.1 within.2]
    obtain ⟨owed, wide, scalar⟩ := inside
    unfold Pending.least at wide scalar
    unfold Pending.greatest at scalar
    by_cases last : p.owed ≤ 1
    · have single : p.owed - 1 = 0 := by omega
      rw [single] at wide scalar
      left
      refine ⟨_, by rw [if_pos last]; exact List.mem_singleton_self _, ?_⟩
      rw [toNat_ofNat_char (by unfold Nat.isValidChar; omega)]
      omega
    · right
      rw [if_neg last]
      refine ⟨_, ⟨?_, ?_, ?_⟩, rfl⟩
      · dsimp only
        omega
      all_goals simp only [Pending.least, Pending.greatest, UInt8.reduceToNat]
      all_goals obtain two | three : p.owed = 2 ∨ p.owed = 3 := by omega
      all_goals simp only [*] at wide scalar ⊢
      all_goals omega
  · left
    have value : (UInt8.ofNat n).toNat = n := UInt8.toNat_ofNat_of_lt' small
    refine ⟨replacement, ?_, by decide⟩
    rw [continueChar, if_neg (by rwa [UInt8.le_iff_toNat_le, UInt8.le_iff_toNat_le, value])]
    exact List.mem_cons_self

theorem decodeFrom_wide {p : Pending} (inside : p.Wide) (bytes : List UInt8) :
    ∃ c ∈ decodeFrom (some p) bytes, 0x80 ≤ c.toNat := by
  induction bytes generalizing p with
  | nil => exact ⟨replacement, List.mem_cons_self, by decide⟩
  | cons byte rest ih =>
      rw [decodeFrom, readByte]
      rcases continueChar_wide inside byte with ⟨c, finished, wide⟩ | ⟨next, nextInside, step⟩
      · exact ⟨c, List.mem_append_left _ finished, wide⟩
      · rw [step]
        exact ih nextInside

theorem decode_wide {bytes : List UInt8} {byte : UInt8} (member : byte ∈ bytes)
    (wide : 0x80 ≤ byte) : ∃ c ∈ decode bytes, 0x80 ≤ c.toNat := by
  unfold decode
  induction bytes with
  | nil => simp at member
  | cons first rest ih =>
      rw [decodeFrom, readByte]
      by_cases firstWide : 0x80 ≤ first
      · rcases startChar_wide firstWide with alone | ⟨p, inside, begun⟩
        · rw [alone]
          exact ⟨replacement, List.mem_cons_self, by decide⟩
        · rw [begun]
          exact decodeFrom_wide inside rest
      · have inRest : byte ∈ rest := by
          rcases List.mem_cons.mp member with rfl | inRest
          · exact absurd wide firstWide
          · exact inRest
        obtain ⟨c, found, cWide⟩ := ih inRest
        rw [UInt8.le_iff_toNat_le] at firstWide
        have ascii := startChar_ascii (n := first.toNat) (by simp at firstWide; omega)
        rw [UInt8.ofNat_toNat] at ascii
        rw [ascii]
        exact ⟨c, List.mem_cons_of_mem _ found, cWide⟩

def asciiChar (byte : UInt8) : Char := Char.ofNat byte.toNat

theorem encode_asciiChar {bytes : List UInt8} (ascii : ∀ byte ∈ bytes, byte < 0x80) :
    encode (bytes.map asciiChar) = bytes := by
  induction bytes with
  | nil => rfl
  | cons byte rest ih =>
      obtain ⟨first, others⟩ := List.forall_mem_cons.mp ascii
      rw [UInt8.lt_iff_toNat_lt] at first
      rw [List.map_cons, encode_cons, ih others, asciiChar, encodeChar_ascii first,
        UInt8.ofNat_toNat, List.singleton_append]

theorem decode_ascii {bytes : List UInt8} (ascii : ∀ byte ∈ bytes, byte < 0x80) :
    decode bytes = bytes.map asciiChar := by
  have decoded := decode_encode (bytes.map asciiChar)
  rwa [encode_asciiChar ascii] at decoded

theorem encode_decode_of_ascii {bytes : List UInt8} (ascii : ∀ byte ∈ bytes, byte < 0x80) :
    encode (decode bytes) = bytes := by
  rw [decode_ascii ascii, encode_asciiChar ascii]

theorem encode_decode_cases (bytes : List UInt8) :
    encode (decode bytes) = bytes ∨
      (∃ byte ∈ bytes, 0x80 ≤ byte) ∧ ∃ byte ∈ encode (decode bytes), 0x80 ≤ byte := by
  by_cases ascii : ∀ byte ∈ bytes, byte < 0x80
  · exact Or.inl (encode_decode_of_ascii ascii)
  · right
    push Not at ascii
    obtain ⟨byte, member, notAscii⟩ := ascii
    have wide := UInt8.not_lt.mp notAscii
    obtain ⟨c, decoded, cWide⟩ := decode_wide member wide
    obtain ⟨image, imageMember, imageWide⟩ := encodeChar_wide cWide
    exact ⟨⟨byte, member, wide⟩, image, List.mem_flatMap.mpr ⟨c, decoded, imageMember⟩, imageWide⟩

end RowText.Utf8
