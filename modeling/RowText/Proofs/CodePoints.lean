import RowText.Proofs.Chars
import RowText.Proofs.Slices
import Mathlib.Data.List.DropRight

/-!
# Operations on encoded code points

The characters that first bytes declare are, in an encoded text, the encodings of its code points
(`chars_encode`). So counting, cutting out, reversing and trimming, none of which decodes, do to the
code points what they do to those characters (`encoded_characters`).
-/

namespace RowText

namespace Utf8

def Continues (byte : UInt8) : Prop :=
  0x80 ≤ byte.toNat ∧ byte.toNat < 0xC0

theorem continues_ofNat {n : Nat} (low : 0x80 ≤ n) (high : n < 0xC0) : Continues (.ofNat n) := by
  rw [Continues, UInt8.toNat_ofNat_of_lt' (by simp [UInt8.size]; omega)]
  exact ⟨low, high⟩

theorem not_continues_ofNat {n : Nat} (small : n < 0x100) (outside : n < 0x80 ∨ 0xC0 ≤ n) :
    ¬ Continues (.ofNat n) := by
  rw [Continues, UInt8.toNat_ofNat_of_lt' small]
  omega

theorem leadWidth_ofNat {n : Nat} (small : n < 0x100) :
    leadWidth (.ofNat n) =
      if n < 0xC2 then 1 else if n < 0xE0 then 2 else if n < 0xF0 then 3 else if n < 0xF5 then 4
      else 1 := by
  simp only [leadWidth, UInt8.lt_iff_toNat_lt, UInt8.toNat_ofNat_of_lt' small, UInt8.reduceToNat]

theorem encodeChar_frame (c : Char) :
    ∃ lead tail, encodeChar c = lead :: tail ∧ leadWidth lead = tail.length + 1 ∧
      ¬ Continues lead ∧ ∀ byte ∈ tail, Continues byte := by
  have scalar : c.toNat < 0xD800 ∨ 0xDFFF < c.toNat ∧ c.toNat < 0x110000 := c.valid
  unfold encodeChar
  generalize c.toNat = code at scalar
  have last : Continues (.ofNat (0x80 + code % 0x40)) := continues_ofNat (by omega) (by omega)
  have middle : Continues (.ofNat (0x80 + code / 0x40 % 0x40)) :=
    continues_ofNat (by omega) (by omega)
  have second : Continues (.ofNat (0x80 + code / 0x1000 % 0x40)) :=
    continues_ofNat (by omega) (by omega)
  by_cases one : code < 0x80
  · rw [if_pos one]
    refine ⟨_, _, rfl, ?_, not_continues_ofNat (by omega) (by omega), by simp⟩
    rw [leadWidth_ofNat (by omega), if_pos (by omega)]
    rfl
  by_cases two : code < 0x800
  · rw [if_neg one, if_pos two]
    refine ⟨_, _, rfl, ?_, not_continues_ofNat (by omega) (by omega), ?_⟩
    · rw [leadWidth_ofNat (by omega), if_neg (by omega), if_pos (by omega)]
      rfl
    · exact List.forall_mem_singleton.mpr last
  by_cases three : code < 0x10000
  · rw [if_neg one, if_neg two, if_pos three]
    refine ⟨_, _, rfl, ?_, not_continues_ofNat (by omega) (by omega), ?_⟩
    · rw [leadWidth_ofNat (by omega), if_neg (by omega), if_neg (by omega), if_pos (by omega)]
      rfl
    · exact List.forall_mem_cons.mpr ⟨middle, List.forall_mem_singleton.mpr last⟩
  · rw [if_neg one, if_neg two, if_neg three]
    refine ⟨_, _, rfl, ?_, not_continues_ofNat (by omega) (by omega), ?_⟩
    · rw [leadWidth_ofNat (by omega), if_neg (by omega), if_neg (by omega), if_neg (by omega),
        if_pos (by omega)]
      rfl
    · exact List.forall_mem_cons.mpr ⟨second, List.forall_mem_cons.mpr ⟨middle,
        List.forall_mem_singleton.mpr last⟩⟩

theorem encodeChar_complete (c : Char) : Complete (encodeChar c) := by
  obtain ⟨lead, tail, shape, width, -, -⟩ := encodeChar_frame c
  rw [shape]
  exact width.symm

@[simp] theorem flatten_map_encodeChar (cs : List Char) : (cs.map encodeChar).flatten = encode cs :=
  (List.flatMap_def ..).symm

@[simp] theorem chars_encode (cs : List Char) : chars (encode cs) = cs.map encodeChar := by
  induction cs with
  | nil => rw [encode, List.flatMap_nil, chars, List.map_nil]
  | cons c cs ih => rw [encode_cons, chars_append (encodeChar_complete c), ih, List.map_cons]

theorem encode_injective : Function.Injective encode :=
  Function.LeftInverse.injective decode_encode

theorem encodeChar_injective : Function.Injective encodeChar := by
  intro c d same
  have singles : encode [c] = encode [d] := by simp only [encode_cons, same]
  exact List.singleton_injective (encode_injective singles)

end Utf8

def withoutEnds {α : Type} (test : α → Bool) (leading trailing : Bool) (xs : List α) : List α :=
  let rest := if leading then xs.dropWhile test else xs
  if trailing then rest.rdropWhile test else rest

theorem drop_leadingRun {α : Type} (test : α → Bool) (xs : List α) :
    xs.drop (leadingRun test xs) = xs.dropWhile test := by
  calc
    xs.drop (leadingRun test xs) =
        (xs.takeWhile test ++ xs.dropWhile test).drop (xs.takeWhile test).length := by
      rw [List.takeWhile_append_dropWhile, leadingRun]
    _ = xs.dropWhile test := List.drop_left

theorem take_sub_leadingRun {α : Type} (test : α → Bool) (xs : List α) :
    xs.take (xs.length - leadingRun test xs.reverse) = xs.rdropWhile test := by
  rw [List.rdropWhile, ← drop_leadingRun, List.reverse_drop, List.reverse_reverse,
    List.length_reverse]

theorem trimmedRange_spec {α : Type} (test : α → Bool) (leading trailing : Bool) (xs : List α) :
    (xs.take (trimmedRange test leading trailing xs).2).drop
      (trimmedRange test leading trailing xs).1 = withoutEnds test leading trailing xs := by
  have front : xs.drop (trimmedRange test leading trailing xs).1 =
      if leading then xs.dropWhile test else xs := by
    cases leading with
    | false => rfl
    | true => exact drop_leadingRun test xs
  cases trailing with
  | false =>
      change (xs.take xs.length).drop _ = _
      rw [List.take_length, front]
      rfl
  | true =>
      have back := take_sub_leadingRun test (xs.drop (trimmedRange test leading true xs).1)
      rw [List.length_drop, Nat.sub_right_comm] at back
      rw [List.drop_take]
      refine back.trans ?_
      rw [front]
      rfl

theorem withoutEnds_map {α β : Type} (f : α → β) (test : β → Bool) (leading trailing : Bool)
    (xs : List α) : withoutEnds test leading trailing (xs.map f) =
      (withoutEnds (test ∘ f) leading trailing xs).map f := by
  have back (ys : List α) :
      (ys.map f).rdropWhile test = (ys.rdropWhile (test ∘ f)).map f := by
    rw [List.rdropWhile, List.rdropWhile, ← List.map_reverse, List.dropWhile_map, List.map_reverse]
  cases leading <;> cases trailing <;> simp [withoutEnds, back, List.dropWhile_map]

namespace RowString

theorem trimWith_eq {s : RowString} (wellFormed : s.WellFormed) (leading trailing : Bool)
    (set : RowString) :
    (s.trimWith leading trailing set).content =
      (withoutEnds ((Utf8.chars set.content).contains ·) leading trailing
        (Utf8.chars s.content)).flatten := by
  have cut := Utf8.byteSlice_flatten (Utf8.chars s.content) (trimmedRange_fst_le
    ((Utf8.chars set.content).contains ·) leading trailing (Utf8.chars s.content))
  rw [Utf8.chars_flatten] at cut
  rw [trimWith_content wellFormed, trimmedBytes?_eq, ← trimmedRange_spec, ← cut]
  dsimp only
  generalize trimmedRange ((Utf8.chars set.content).contains ·) leading trailing
    (Utf8.chars s.content) = range
  by_cases nothing : range.1 = range.2
  · rw [if_pos nothing, nothing, byteSlice_eq_nil (Nat.le_refl _)]
  · rw [if_neg nothing]

variable {s : RowString} {cs : List Char}

theorem numChars_encode (encoded : s.content = Utf8.encode cs) : s.numChars = cs.length := by
  rw [numChars_eq, encoded, Utf8.chars_encode, List.length_map]

theorem substring_encode (wellFormed : s.WellFormed) (encoded : s.content = Utf8.encode cs)
    (start stop : Nat) :
    (s.substring start stop).content = Utf8.encode ((cs.take stop).drop start) := by
  rw [substring_content wellFormed, encoded, Utf8.chars_encode, ← List.map_take, ← List.map_drop,
    Utf8.flatten_map_encodeChar]

theorem reverse_encode (wellFormed : s.WellFormed) (encoded : s.content = Utf8.encode cs) :
    s.reverse.content = Utf8.encode cs.reverse := by
  rw [reverse_content wellFormed, encoded, Utf8.reverseChars, Utf8.chars_encode, ← List.map_reverse,
    Utf8.flatten_map_encodeChar]

theorem reverse_wellFormed (s : RowString) : s.reverse.WellFormed := by
  unfold reverse
  split
  · exact ofBytes_wellFormed []
  · exact ofBytes_wellFormed _

theorem trimWith_encode (wellFormed : s.WellFormed) (encoded : s.content = Utf8.encode cs)
    (leading trailing : Bool) {set : RowString} {ds : List Char}
    (setEncoded : set.content = Utf8.encode ds) :
    (s.trimWith leading trailing set).content =
      Utf8.encode (withoutEnds (· ∈ ds) leading trailing cs) := by
  have members : ((ds.map Utf8.encodeChar).contains ·) ∘ Utf8.encodeChar =
      fun c => decide (c ∈ ds) := by
    funext c
    simp only [Function.comp_apply, List.contains_eq_mem,
      List.mem_map_of_injective Utf8.encodeChar_injective]
  rw [trimWith_eq wellFormed, encoded, setEncoded, Utf8.chars_encode, Utf8.chars_encode,
    withoutEnds_map, members, Utf8.flatten_map_encodeChar]

theorem encoded_characters (wellFormed : s.WellFormed) (encoded : s.content = Utf8.encode cs) :
    s.numChars = cs.length ∧
      (∀ start stop,
        (s.substring start stop).content = Utf8.encode (cs.extract start stop) ∧
          (stop ≤ start ∨ cs.length ≤ start → (s.substring start stop).content = [])) ∧
      s.reverse.content = Utf8.encode cs.reverse ∧
      s.reverse.reverse.content = s.content ∧
      ∀ (leading trailing : Bool) (set : RowString) (ds : List Char),
        set.content = Utf8.encode ds →
          (s.trimWith leading trailing set).content =
            Utf8.encode (withoutEnds (· ∈ ds) leading trailing cs) := by
  refine ⟨numChars_encode encoded, ?_, reverse_encode wellFormed encoded, ?_,
    fun leading trailing set ds => trimWith_encode wellFormed encoded leading trailing⟩
  · intro start stop
    have part := substring_encode wellFormed encoded start stop
    refine ⟨by rw [part, List.drop_take, List.extract], ?_⟩
    intro outside
    rw [part, drop_take_eq_nil outside, Utf8.encode, List.flatMap_nil]
  · rw [reverse_encode (reverse_wellFormed s) (reverse_encode wellFormed encoded),
      List.reverse_reverse, encoded]

def straddlingChar : RowString :=
  view ⟨[⟨[0x20, 0x61, 0xE4]⟩, ⟨[]⟩, ⟨[0xB8, 0xAD, 0x62]⟩], 1, 5⟩ none

theorem straddlingChar_wellFormed : straddlingChar.WellFormed :=
  ⟨by simp, by decide, by simp⟩

theorem straddlingChar_content : straddlingChar.content = Utf8.encode ['a', '中', 'b'] := by
  decide

theorem encoded_characters_straddlingChar :
    straddlingChar.WellFormed ∧ straddlingChar.content = Utf8.encode ['a', '中', 'b'] ∧
      straddlingChar.numChars = 3 ∧
      (straddlingChar.substring 1 7).content = Utf8.encode ['中', 'b'] ∧
      straddlingChar.reverse.content = Utf8.encode ['b', '中', 'a'] ∧
      (straddlingChar.trimWith true true (ofText "ba")).content = Utf8.encode ['中'] := by
  have ⟨count, part, reversed, _, trimmed⟩ :=
    encoded_characters straddlingChar_wellFormed straddlingChar_content
  exact ⟨straddlingChar_wellFormed, straddlingChar_content, count, (part 1 7).1, reversed,
    trimmed true true (ofText "ba") ['b', 'a'] (by decide)⟩

end RowString

end RowText
