import RowText.Proofs.Regrouping

namespace RowText

section

variable {α : Type} (test : α → Bool)

theorem dropWhile_concat (xs : List α) (x : α) :
    (xs ++ [x]).dropWhile test =
      if (xs.dropWhile test).isEmpty ∧ test x then [] else xs.dropWhile test ++ [x] := by
  rw [List.dropWhile_append, List.dropWhile_cons, List.dropWhile_nil]
  cases xs.dropWhile test <;> simp

theorem dropWhile_rdropWhile (xs : List α) :
    (xs.rdropWhile test).dropWhile test = (xs.dropWhile test).rdropWhile test := by
  induction xs using List.reverseRecOn with
  | nil => rfl
  | append_singleton xs x ih =>
      rw [dropWhile_concat]
      by_cases passes : test x = true
      · rw [List.rdropWhile_concat_pos test xs x passes, ih]
        split
        next whole => rw [List.isEmpty_iff.mp whole.1]
        next => rw [List.rdropWhile_concat_pos test _ x passes]
      · rw [List.rdropWhile_concat_neg test xs x passes, dropWhile_concat,
          if_neg fun whole => passes whole.2, List.rdropWhile_concat_neg test _ x passes]

theorem withoutEnds_withoutEnds (leading trailing leadingNext trailingNext : Bool) (xs : List α) :
    withoutEnds test leadingNext trailingNext (withoutEnds test leading trailing xs) =
      withoutEnds test (leading || leadingNext) (trailing || trailingNext) xs := by
  cases leading <;> cases trailing <;> cases leadingNext <;> cases trailingNext
  all_goals simp [withoutEnds, dropWhile_rdropWhile, List.dropWhile_idempotent,
    List.rdropWhile_idempotent]

theorem isInfix_withoutEnds (leading trailing : Bool) (xs : List α) :
    withoutEnds test leading trailing xs <:+: xs := by
  have front : (if leading then xs.dropWhile test else xs) <:+ xs := by
    split
    · exact List.dropWhile_suffix test
    · exact List.suffix_rfl
  unfold withoutEnds
  dsimp only
  split
  · exact (List.rdropWhile_prefix test _).isInfix.trans front.isInfix
  · exact front.isInfix

end

section

variable {α : Type} {test : α → Bool} {whole : List α → Bool} {pieces : List (List α)}

def Uniform (test : α → Bool) (whole : List α → Bool) (piece : List α) : Prop :=
  piece ≠ [] ∧ ∀ x ∈ piece, test x = whole piece

theorem dropWhile_flatten (uniform : ∀ piece ∈ pieces, Uniform test whole piece) :
    pieces.flatten.dropWhile test = (pieces.dropWhile whole).flatten := by
  induction pieces with
  | nil => rfl
  | cons piece rest ih =>
      obtain ⟨⟨nonempty, agreed⟩, others⟩ := List.forall_mem_cons.mp uniform
      rw [List.flatten_cons, List.dropWhile_cons]
      by_cases passes : whole piece = true
      · rw [if_pos passes, ← ih others]
        exact List.dropWhile_append_of_pos fun x member => (agreed x member).trans passes
      · obtain ⟨first, tail, rfl⟩ := List.exists_cons_of_ne_nil nonempty
        have stops : ¬ test first = true := by rwa [agreed first List.mem_cons_self]
        rw [if_neg passes, List.cons_append, List.dropWhile_cons_of_neg stops, List.flatten_cons,
          List.cons_append]

theorem rdropWhile_flatten (uniform : ∀ piece ∈ pieces, Uniform test whole piece) :
    pieces.flatten.rdropWhile test = (pieces.rdropWhile whole).flatten := by
  induction pieces using List.reverseRecOn with
  | nil => rfl
  | append_singleton front piece ih =>
      obtain ⟨others, ⟨nonempty, agreed⟩⟩ := List.forall_mem_append.mp uniform |>.imp_right
        (· piece (List.mem_singleton_self piece))
      rw [List.flatten_append, List.flatten_singleton]
      by_cases passes : whole piece = true
      · rw [List.rdropWhile_concat_pos whole front piece passes, ← ih others, List.rdropWhile,
          List.reverse_append, List.dropWhile_append_of_pos, List.rdropWhile]
        intro x member
        exact (agreed x (List.mem_reverse.mp member)).trans passes
      · obtain ⟨init, last, rfl⟩ := (List.eq_nil_or_concat' piece).resolve_left nonempty
        have stops : ¬ test last = true := by rwa [agreed last (by simp)]
        rw [List.rdropWhile_concat_neg whole front _ passes, ← List.append_assoc,
          List.rdropWhile_concat_neg test _ last stops, List.flatten_append,
          List.flatten_singleton, List.append_assoc]

theorem withoutEnds_flatten (uniform : ∀ piece ∈ pieces, Uniform test whole piece)
    (leading trailing : Bool) : withoutEnds test leading trailing pieces.flatten =
      (withoutEnds whole leading trailing pieces).flatten := by
  have front : (if leading then pieces.flatten.dropWhile test else pieces.flatten) =
      (if leading then pieces.dropWhile whole else pieces).flatten := by
    cases leading with
    | false => rfl
    | true => exact dropWhile_flatten uniform
  cases trailing with
  | false => exact front
  | true =>
      change List.rdropWhile test _ = (List.rdropWhile whole _).flatten
      rw [front]
      apply rdropWhile_flatten
      intro piece member
      apply uniform
      cases leading with
      | false => exact member
      | true => exact (List.dropWhile_suffix whole).subset member

end

namespace RowString

variable {s : RowString}

theorem chars_trimWith (wellFormed : s.WellFormed) (leading trailing : Bool) (set : RowString) :
    Utf8.chars (s.trimWith leading trailing set).content =
      withoutEnds ((Utf8.chars set.content).contains ·) leading trailing
        (Utf8.chars s.content) := by
  rw [trimWith_eq wellFormed]
  exact Utf8.chars_flatten_of_infix (isInfix_withoutEnds _ leading trailing _)

theorem trimWith_trimWith (wellFormed : s.WellFormed) (set : RowString)
    (leading trailing leadingNext trailingNext : Bool) :
    ((s.trimWith leading trailing set).trimWith leadingNext trailingNext set).content =
      (s.trimWith (leading || leadingNext) (trailing || trailingNext) set).content := by
  rw [trimWith_eq (trimWith_wellFormed wellFormed leading trailing set), chars_trimWith wellFormed,
    withoutEnds_withoutEnds, trimWith_eq wellFormed]

theorem trimBlank_eq (wellFormed : s.WellFormed) (leading trailing : Bool) :
    (s.trimBlank leading trailing).content =
      withoutEnds isBlankByte leading trailing s.content := by
  rw [trimBlank_content wellFormed, byteSlice, ← List.drop_take, trimmedRange_spec]

theorem trimBlank_trimBlank (wellFormed : s.WellFormed)
    (leading trailing leadingNext trailingNext : Bool) :
    ((s.trimBlank leading trailing).trimBlank leadingNext trailingNext).content =
      (s.trimBlank (leading || leadingNext) (trailing || trailingNext)).content := by
  rw [trimBlank_eq (trimBlank_wellFormed wellFormed leading trailing), trimBlank_eq wellFormed,
    withoutEnds_withoutEnds, trimBlank_eq wellFormed]

/-- Trimming again changes nothing, and the ends can be trimmed in any order. -/
structure Settles (trim : Bool → Bool → RowString → RowString) (s : RowString) : Prop where
  again : ∀ leading trailing, (trim leading trailing (trim leading trailing s)).content =
    (trim leading trailing s).content
  leftFirst : (trim false true (trim true false s)).content = (trim true true s).content
  rightFirst : (trim true false (trim false true s)).content = (trim true true s).content

theorem settles_of_add {trim : Bool → Bool → RowString → RowString}
    (add : ∀ leading trailing leadingNext trailingNext,
      (trim leadingNext trailingNext (trim leading trailing s)).content =
        (trim (leading || leadingNext) (trailing || trailingNext) s).content) :
    Settles trim s where
  again leading trailing := by rw [add, Bool.or_self, Bool.or_self]
  leftFirst := add true false false true
  rightFirst := add false true true false

/-- Trims take exactly the longest runs off the requested ends, of characters of the set or of bytes
up to the space, and settle at once, on any bytes. -/
theorem trims_settle (wellFormed : s.WellFormed) :
    (∀ set : RowString,
      (∀ leading trailing, (s.trimWith leading trailing set).content =
        (withoutEnds (· ∈ Utf8.chars set.content) leading trailing
          (Utf8.chars s.content)).flatten) ∧
      Settles (fun leading trailing s => s.trimWith leading trailing set) s) ∧
    (∀ leading trailing, (s.trimBlank leading trailing).content =
      withoutEnds (· ≤ 0x20) leading trailing s.content) ∧
    Settles (fun leading trailing s => s.trimBlank leading trailing) s := by
  refine ⟨fun set => ⟨fun leading trailing => ?_, ?_⟩, trimBlank_eq wellFormed, ?_⟩
  · simp only [trimWith_eq wellFormed, List.contains_eq_mem]
  · exact settles_of_add (trimWith_trimWith wellFormed set)
  · exact settles_of_add (trimBlank_trimBlank wellFormed)

theorem trims_settle_straddlingMalformed :
    straddlingMalformed.WellFormed ∧
      (straddlingMalformed.trimWith true true (ofBytes [0xFF, 0xF0, 0x61])).content =
        [0xE4, 0x61, 0x61] ∧
      ((straddlingMalformed.trimWith false true (ofBytes [0xFF, 0xF0, 0x61])).trimWith true false
        (ofBytes [0xFF, 0xF0, 0x61])).content = [0xE4, 0x61, 0x61] := by
  have ⟨withSet, _⟩ := trims_settle straddlingMalformed_wellFormed
  obtain ⟨exact, settles⟩ := withSet (ofBytes [0xFF, 0xF0, 0x61])
  have members : Utf8.chars [0xFF, 0xF0, 0x61] = [[0xFF], [0xF0, 0x61]] :=
    Utf8.chars_eq_iff.mpr ⟨rfl, .cons (by rfl) (.cutShort (by decide))⟩
  have trimmed : (straddlingMalformed.trimWith true true (ofBytes [0xFF, 0xF0, 0x61])).content =
      [0xE4, 0x61, 0x61] := by
    rw [exact, straddlingMalformed_chars, content_ofBytes, members]
    decide
  exact ⟨straddlingMalformed_wellFormed, trimmed, settles.rightFirst.trans trimmed⟩

def blankChars : List Char := (List.range 0x21).map Char.ofNat

@[simp] theorem mem_blankChars {c : Char} : c ∈ blankChars ↔ c.toNat ≤ 0x20 := by
  rw [blankChars, List.mem_map]
  constructor
  · rintro ⟨n, small, rfl⟩
    rw [List.mem_range] at small
    rw [Utf8.toNat_ofNat_char (Or.inl (by omega))]
    omega
  · intro small
    exact ⟨c.toNat, List.mem_range.mpr (by omega), Char.ofNat_toNat c⟩

theorem isBlankByte_of_mem {c : Char} {byte : UInt8} (member : byte ∈ Utf8.encodeChar c) :
    isBlankByte byte = decide (c ∈ blankChars) := by
  rw [isBlankByte, decide_eq_decide, mem_blankChars]
  by_cases wide : 0x80 ≤ c.toNat
  · have high := Utf8.wide_of_mem_encodeChar wide byte member
    simp only [UInt8.le_iff_toNat_le, UInt8.reduceToNat] at high ⊢
    omega
  · have single := Utf8.encodeChar_ascii (Nat.not_le.mp wide)
    rw [Char.ofNat_toNat] at single
    obtain rfl := List.mem_singleton.mp (single ▸ member)
    have value : (UInt8.ofNat c.toNat).toNat = c.toNat :=
      UInt8.toNat_ofNat_of_lt' (by simp [UInt8.size]; omega)
    simp only [UInt8.le_iff_toNat_le, value, UInt8.reduceToNat]

theorem uniform_encodeChar (c : Char) :
    Uniform isBlankByte ((blankChars.map Utf8.encodeChar).contains ·) (Utf8.encodeChar c) := by
  refine ⟨Utf8.encodeChar_ne_nil c, fun byte member => ?_⟩
  simp only [isBlankByte_of_mem member, List.contains_eq_mem,
    List.mem_map_of_injective Utf8.encodeChar_injective]

/-- Walking bytes inwards stops at ends of characters, so it trims the characters up to the space. -/
theorem trimBlank_eq_trimWith (wellFormed : s.WellFormed) (valid : Utf8.Valid s.content)
    {set : RowString} (blanks : set.content = Utf8.encode blankChars) (leading trailing : Bool) :
    (s.trimBlank leading trailing).content = (s.trimWith leading trailing set).content := by
  obtain ⟨cs, encoded⟩ := valid
  have uniform : ∀ piece ∈ Utf8.chars s.content,
      Uniform isBlankByte ((Utf8.chars set.content).contains ·) piece := by
    rw [← encoded, blanks, Utf8.chars_encode, Utf8.chars_encode]
    exact List.forall_mem_map.mpr fun c _ => uniform_encodeChar c
  rw [trimBlank_eq wellFormed, trimWith_eq wellFormed, ← withoutEnds_flatten uniform,
    Utf8.chars_flatten]

def straddlingBlanks : RowString :=
  view ⟨[⟨[0x20, 0x20, 0xE4]⟩, ⟨[]⟩, ⟨[0xB8, 0xAD, 0x0D, 0x0A, 0x20]⟩], 1, 6⟩ none

theorem trimBlank_eq_trimWith_straddlingBlanks :
    straddlingBlanks.WellFormed ∧ Utf8.Valid straddlingBlanks.content ∧
      (ofBytes (Utf8.encode blankChars)).content = Utf8.encode blankChars ∧
      (straddlingBlanks.trimBlank false true).content = [0x20, 0xE4, 0xB8, 0xAD] ∧
      (straddlingBlanks.trimBlank false true).content =
        (straddlingBlanks.trimWith false true (ofBytes (Utf8.encode blankChars))).content := by
  have wellFormed : straddlingBlanks.WellFormed := ⟨by simp, by decide, by simp⟩
  have valid : Utf8.Valid straddlingBlanks.content := ⟨[' ', '中', '\r', '\n'], by decide⟩
  exact ⟨wellFormed, valid, rfl, by decide, trimBlank_eq_trimWith wellFormed valid rfl false true⟩

end RowString

end RowText
