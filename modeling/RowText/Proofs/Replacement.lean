import RowText.Proofs.CodePoints

/-!
# What lossy decoding replaces

A pending character knows which characters it can still become (`Pending.Begun`), and each byte
either goes on with it or yields characters (`readByte_cases`). It follows that a part of a character
that is cut short is replaced as a whole, and no byte behind it (`decode_cutShort`), and that code
points are read as they are behind any bytes (`decode_append_encode`).
-/

namespace RowText

namespace Utf8

def lastBytes (code : Nat) : Nat → List UInt8
  | 0 => []
  | count + 1 => .ofNat (0x80 + code / 0x40 ^ count % 0x40) :: lastBytes code count

theorem encodeChar_lastBytes {code : Nat} (valid : code.isValidChar) (wide : 0x80 ≤ code) :
    encodeChar (Char.ofNat code) =
      if code < 0x800 then .ofNat (0xC0 + code / 0x40) :: lastBytes code 1
      else if code < 0x10000 then .ofNat (0xE0 + code / 0x1000) :: lastBytes code 2
      else .ofNat (0xF0 + code / 0x40000) :: lastBytes code 3 := by
  simp only [encodeChar, toNat_ofNat_char valid, if_neg (Nat.not_lt_of_le wide), lastBytes,
    Nat.pow_zero, Nat.div_one, Nat.reducePow]

/-- The bytes begin every character that the pending one can become, and only a byte from inside of
a character can come next. -/
structure Pending.Begun (p : Pending) (read : List UInt8) : Prop where
  lowest : 0x80 ≤ p.low.toNat
  highest : p.high.toNat < 0xC0
  owed : 1 ≤ p.owed
  spelled : ∀ code, p.least ≤ code → code ≤ p.greatest →
    encodeChar (Char.ofNat code) = read ++ lastBytes code p.owed

theorem begun_two {n : Nat} (low : 0xC2 ≤ n) (high : n < 0xE0) :
    Pending.Begun ⟨n - 0xC0, 1, 0x80, 0xBF⟩ [.ofNat n] := by
  refine ⟨by simp, by simp, Nat.le_refl 1, ?_⟩
  intro code least greatest
  simp only [Pending.least, Pending.greatest, UInt8.reduceToNat, Nat.reduceSub, Nat.pow_zero]
    at least greatest
  have lead : 0xC0 + code / 0x40 = n := by omega
  rw [encodeChar_lastBytes (by unfold Nat.isValidChar; omega) (by omega), if_pos (by omega), lead]
  rfl

theorem begun_three {n : Nat} (low : 0xE0 ≤ n) (high : n < 0xF0) :
    Pending.Begun ⟨n - 0xE0, 2, if n = 0xE0 then 0xA0 else 0x80, if n = 0xED then 0x9F else 0xBF⟩
      [.ofNat n] := by
  refine ⟨by dsimp only; split <;> simp, by dsimp only; split <;> simp, by simp, ?_⟩
  intro code least greatest
  simp only [Pending.least, Pending.greatest, apply_ite UInt8.toNat, UInt8.reduceToNat,
    Nat.reducePow, Nat.reduceSub] at least greatest
  have range : 0x800 ≤ code ∧ code < 0x10000 ∧ (code < 0xD800 ∨ 0xDFFF < code) := by grind
  have lead : 0xE0 + code / 0x1000 = n := by grind
  rw [encodeChar_lastBytes (by unfold Nat.isValidChar; omega) (by omega), if_neg (by omega),
    if_pos range.2.1, lead]
  rfl

theorem begun_four {n : Nat} (low : 0xF0 ≤ n) (high : n < 0xF5) :
    Pending.Begun ⟨n - 0xF0, 3, if n = 0xF0 then 0x90 else 0x80, if n = 0xF4 then 0x8F else 0xBF⟩
      [.ofNat n] := by
  refine ⟨by dsimp only; split <;> simp, by dsimp only; split <;> simp, by simp, ?_⟩
  intro code least greatest
  simp only [Pending.least, Pending.greatest, apply_ite UInt8.toNat, UInt8.reduceToNat,
    Nat.reducePow, Nat.reduceSub] at least greatest
  have range : 0x10000 ≤ code ∧ code < 0x110000 := by grind
  have lead : 0xF0 + code / 0x40000 = n := by grind
  rw [encodeChar_lastBytes (by unfold Nat.isValidChar; omega) (by omega), if_neg (by omega),
    if_neg (by omega), lead]
  rfl

theorem startChar_begun {byte : UInt8} {p : Pending} (started : startChar byte = ([], some p)) :
    p.Begun [byte] := by
  obtain ⟨n, small, rfl⟩ : ∃ n, n < 0x100 ∧ byte = .ofNat n := ⟨byte.toNat, byte.toNat_lt, by simp⟩
  by_cases two : 0xC2 ≤ n ∧ n < 0xE0
  · rw [startChar_two two.1 two.2] at started
    exact Option.some.inj (Prod.mk.inj started).2 ▸ begun_two two.1 two.2
  by_cases three : 0xE0 ≤ n ∧ n < 0xF0
  · rw [startChar_three three.1 three.2] at started
    exact Option.some.inj (Prod.mk.inj started).2 ▸ begun_three three.1 three.2
  by_cases four : 0xF0 ≤ n ∧ n < 0xF5
  · rw [startChar_four four.1 four.2] at started
    exact Option.some.inj (Prod.mk.inj started).2 ▸ begun_four four.1 four.2
  · have value : (UInt8.ofNat n).toNat = n := UInt8.toNat_ofNat_of_lt' small
    simp only [startChar, UInt8.lt_iff_toNat_lt, value, UInt8.reduceToNat] at started
    grind

theorem Pending.Begun.admits {p : Pending} {read : List UInt8} (begun : p.Begun read) {byte : UInt8}
    (admitted : p.low ≤ byte ∧ byte ≤ p.high) {code : Nat}
    (least : (p.code * 0x40 + (byte.toNat - 0x80)) * 0x40 ^ (p.owed - 1) ≤ code)
    (greatest : code < (p.code * 0x40 + (byte.toNat - 0x80) + 1) * 0x40 ^ (p.owed - 1)) :
    encodeChar (Char.ofNat code) = read ++ [byte] ++ lastBytes code (p.owed - 1) := by
  obtain ⟨lowest, highest, positive, spelled⟩ := begun
  obtain ⟨count, owed⟩ : ∃ count, p.owed = count + 1 := ⟨p.owed - 1, by omega⟩
  have ⟨low, high⟩ := admitted
  rw [UInt8.le_iff_toNat_le] at low high
  rw [Pending.least, Pending.greatest, owed, Nat.add_sub_cancel] at spelled
  rw [owed, Nat.add_sub_cancel] at least greatest ⊢
  have power : 0 < 0x40 ^ count := Nat.pow_pos (by decide)
  have bits : code / 0x40 ^ count = p.code * 0x40 + (byte.toNat - 0x80) :=
    Nat.div_eq_of_lt_le least greatest
  have same : 0x80 + code / 0x40 ^ count % 0x40 = byte.toNat := by omega
  have lower : (p.code * 0x40 + (p.low.toNat - 0x80)) * 0x40 ^ count ≤
      (p.code * 0x40 + (byte.toNat - 0x80)) * 0x40 ^ count :=
    Nat.mul_le_mul_right _ (by omega)
  have upper : (p.code * 0x40 + (byte.toNat - 0x80)) * 0x40 ^ count ≤
      (p.code * 0x40 + (p.high.toNat - 0x80)) * 0x40 ^ count :=
    Nat.mul_le_mul_right _ (by omega)
  rw [Nat.add_mul, Nat.one_mul] at greatest
  rw [spelled code (by omega) (by omega), lastBytes, same, UInt8.ofNat_toNat, List.append_assoc]
  rfl

theorem Pending.Begun.next {p : Pending} {read : List UInt8} (begun : p.Begun read) {byte : UInt8}
    (admitted : p.low ≤ byte ∧ byte ≤ p.high) (more : ¬ p.owed ≤ 1) :
    Pending.Begun ⟨p.code * 0x40 + (byte.toNat - 0x80), p.owed - 1, 0x80, 0xBF⟩
      (read ++ [byte]) := by
  refine ⟨by simp, by simp, by dsimp only; omega, ?_⟩
  intro code least greatest
  obtain ⟨count, owed⟩ : ∃ count, p.owed = count + 1 + 1 := ⟨p.owed - 2, by omega⟩
  rw [Pending.least, owed] at least
  rw [Pending.greatest, owed] at greatest
  simp only [Nat.add_sub_cancel, UInt8.reduceToNat, Nat.reduceSub, Nat.add_zero, Nat.mul_assoc,
    Nat.add_mul] at least greatest
  have power : 0x40 ^ (count + 1) = 0x40 * 0x40 ^ count := Nat.pow_succ'
  have positive : 0 < 0x40 ^ count := Nat.pow_pos (by decide)
  apply begun.admits admitted
  · rw [owed, Nat.add_sub_cancel, power, Nat.add_mul, Nat.mul_assoc]
    omega
  · rw [owed, Nat.add_sub_cancel, power, Nat.add_mul, Nat.add_mul, Nat.mul_assoc]
    omega

theorem startChar_cases (byte : UInt8) :
    (∃ c, startChar byte = ([c], none)) ∨ ∃ p, startChar byte = ([], some p) := by
  unfold startChar
  repeat' split
  all_goals simp

theorem continueChar_admitted {p : Pending} {byte : UInt8}
    (admitted : p.low ≤ byte ∧ byte ≤ p.high) :
    continueChar p byte =
      if p.owed ≤ 1 then ([Char.ofNat (p.code * 0x40 + (byte.toNat - 0x80))], none)
      else ([], some ⟨p.code * 0x40 + (byte.toNat - 0x80), p.owed - 1, 0x80, 0xBF⟩) := by
  rw [continueChar, if_pos admitted]

theorem continueChar_outside {p : Pending} {byte : UInt8}
    (outside : ¬ (p.low ≤ byte ∧ byte ≤ p.high)) :
    continueChar p byte = (replacement :: (startChar byte).1, (startChar byte).2) := by
  rw [continueChar, if_neg outside]

def Stands : Option Pending → List UInt8 → Prop
  | none, read => read = []
  | some p, read => p.Begun read

theorem readByte_cases {state : Option Pending} {read : List UInt8} (stands : Stands state read)
    (byte : UInt8) :
    (∃ p, readByte state byte = ([], some p) ∧ p.Begun (read ++ [byte])) ∨
      ∃ c finished next, readByte state byte = (c :: finished, next) ∧
        ∃ reread, Stands next reread := by
  cases state with
  | none =>
      obtain rfl := stands
      rcases startChar_cases byte with ⟨c, finished⟩ | ⟨p, started⟩
      · exact Or.inr ⟨c, [], none, finished, [], rfl⟩
      · exact Or.inl ⟨p, started, startChar_begun started⟩
  | some p =>
      by_cases admitted : p.low ≤ byte ∧ byte ≤ p.high
      · by_cases last : p.owed ≤ 1
        · rw [readByte, continueChar_admitted admitted, if_pos last]
          exact Or.inr ⟨_, [], none, rfl, [], rfl⟩
        · rw [readByte, continueChar_admitted admitted, if_neg last]
          exact Or.inl ⟨_, rfl, stands.next admitted last⟩
      · rw [readByte, continueChar_outside admitted]
        rcases startChar_cases byte with ⟨c, finished⟩ | ⟨next, started⟩
        · rw [finished]
          exact Or.inr ⟨replacement, [c], none, rfl, [], rfl⟩
        · rw [started]
          exact Or.inr ⟨replacement, [], some next, rfl, [byte], startChar_begun started⟩

theorem decodeFrom_outside {p : Pending} {byte : UInt8}
    (outside : ¬ (p.low ≤ byte ∧ byte ≤ p.high)) (rest : List UInt8) :
    decodeFrom (some p) (byte :: rest) = replacement :: decodeFrom none (byte :: rest) := by
  rw [decodeFrom, decodeFrom, readByte, readByte, continueChar_outside outside]
  rfl

theorem decodeFrom_ne_nil {state : Option Pending} {read bytes : List UInt8}
    (stands : Stands state read) (present : state.isSome ∨ bytes ≠ []) :
    decodeFrom state bytes ≠ [] := by
  induction bytes generalizing state read with
  | nil =>
      cases state with
      | none => simp at present
      | some p => exact List.cons_ne_nil _ _
  | cons byte rest ih =>
      rw [decodeFrom]
      rcases readByte_cases stands byte with ⟨p, step, begun⟩ | ⟨c, finished, next, step, -⟩
      · rw [step]
        exact ih (show Stands (some p) _ from begun) (Or.inl rfl)
      · rw [step]
        exact List.cons_ne_nil _ _

theorem Pending.Begun.outside {p : Pending} {read : List UInt8} (begun : p.Begun read)
    {byte : UInt8} (starts : ¬ Continues byte) : ¬ (p.low ≤ byte ∧ byte ≤ p.high) := by
  rintro ⟨low, high⟩
  rw [UInt8.le_iff_toNat_le] at low high
  exact starts ⟨Nat.le_trans begun.lowest low, Nat.lt_of_le_of_lt high begun.highest⟩

theorem decodeFrom_append_encode {state : Option Pending} {read : List UInt8}
    (stands : Stands state read) (bytes : List UInt8) (cs : List Char) :
    decodeFrom state (bytes ++ encode cs) = decodeFrom state bytes ++ cs := by
  induction bytes generalizing state read with
  | nil =>
      cases state with
      | none => exact decode_encode cs
      | some p =>
          cases cs with
          | nil => rfl
          | cons c cs =>
              obtain ⟨lead, tail, shape, -, starts, -⟩ := encodeChar_frame c
              have leads : encode (c :: cs) = lead :: (tail ++ encode cs) := by
                rw [encode_cons, shape, List.cons_append]
              have decoded := decode_encode (c :: cs)
              rw [leads] at decoded ⊢
              rw [List.nil_append, decodeFrom_outside (stands.outside starts)]
              exact congrArg (replacement :: ·) decoded
  | cons byte rest ih =>
      rw [List.cons_append, decodeFrom, decodeFrom]
      rcases readByte_cases stands byte with
        ⟨p, step, begun⟩ | ⟨c, finished, next, step, reread, begun⟩
      · rw [step]
        exact ih (show Stands (some p) _ from begun)
      · rw [step]
        dsimp only
        rw [ih begun, List.append_assoc]

theorem decode_append_encode (bytes : List UInt8) (cs : List Char) :
    decode (bytes ++ encode cs) = decode bytes ++ cs :=
  decodeFrom_append_encode (show Stands none [] from rfl) bytes cs

theorem decode_malformed {lead : UInt8} (malformed : 0x80 ≤ lead ∧ lead ≤ 0xC1 ∨ 0xF5 ≤ lead)
    (rest : List UInt8) : decode (lead :: rest) = replacement :: decode rest := by
  have alone : startChar lead = ([replacement], none) := by
    simp only [UInt8.le_iff_toNat_le, UInt8.reduceToNat] at malformed
    simp only [startChar, UInt8.lt_iff_toNat_lt, UInt8.reduceToNat]
    grind
  rw [decode, decodeFrom, readByte, alone]
  rfl

theorem exists_stands {part behind : List UInt8} {c : Char} (more : behind ≠ [])
    (shape : part ++ behind = encodeChar c) :
    ∃ state, Stands state part ∧
      ∀ rest, decodeFrom none (part ++ rest) = decodeFrom state rest := by
  induction part using List.reverseRecOn generalizing behind with
  | nil => exact ⟨none, rfl, fun _ => rfl⟩
  | append_singleton front byte ih =>
      rw [List.append_assoc, List.singleton_append] at shape
      obtain ⟨state, stands, reads⟩ := ih (List.cons_ne_nil byte behind) shape
      have single : decodeFrom state (byte :: behind) = [c] := by
        rw [← reads, shape, ← List.append_nil (encodeChar c), decodeFrom_encodeChar]
        rfl
      rw [decodeFrom] at single
      rcases readByte_cases stands byte with
        ⟨p, step, begun⟩ | ⟨first, finished, next, step, reread, begun⟩
      · refine ⟨some p, begun, fun rest => ?_⟩
        rw [List.append_assoc, List.singleton_append, reads, decodeFrom, step]
        rfl
      · -- The character is all that is read, so nothing could be read behind this byte.
        rw [step] at single
        have nothing := (List.append_eq_nil_iff.mp (List.cons.inj single).2).2
        exact absurd nothing (decodeFrom_ne_nil begun (Or.inr more))

structure CutShort (part rest : List UInt8) : Prop where
  nonempty : part ≠ []
  begins : ∃ c, part <+: encodeChar c ∧ part ≠ encodeChar c
  stopped : ∀ byte ∈ rest.head?, ∀ c, ¬ part ++ [byte] <+: encodeChar c

theorem decode_cutShort {part rest : List UInt8} (cut : CutShort part rest) :
    decode (part ++ rest) = replacement :: decode rest := by
  obtain ⟨nonempty, ⟨c, ⟨behind, shape⟩, notAll⟩, stopped⟩ := cut
  have more : behind ≠ [] := by
    rintro rfl
    exact notAll ((List.append_nil part).symm.trans shape)
  obtain ⟨state, stands, reads⟩ := exists_stands more shape
  rw [decode, reads]
  cases state with
  | none => exact absurd stands nonempty
  | some p =>
      cases rest with
      | nil => rfl
      | cons byte rest =>
          refine decodeFrom_outside (fun admitted => ?_) rest
          have power : 0 < 0x40 ^ (p.owed - 1) := Nat.pow_pos (by decide)
          have goesOn := stands.admits admitted (Nat.le_refl _)
            ((Nat.mul_lt_mul_right power).mpr (Nat.lt_succ_self _))
          exact stopped byte rfl _ ⟨_, goesOn.symm⟩

theorem encode_decode_eq_iff (bytes : List UInt8) :
    encode (decode bytes) = bytes ↔ Valid bytes := by
  constructor
  · intro same
    exact ⟨decode bytes, same⟩
  · rintro ⟨cs, rfl⟩
    rw [decode_encode]

end Utf8

end RowText
