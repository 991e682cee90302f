import RowText.Proofs.CharSearch

namespace RowText

namespace Utf8

@[simp] theorem encode_prefix_iff {ns cs : List Char} : encode ns <+: encode cs ↔ ns <+: cs := by
  constructor
  · rintro ⟨rest, joined⟩
    have decoded := congrArg decode joined
    rw [decode_encode, decode, decodeFrom_encode_append] at decoded
    exact ⟨_, decoded⟩
  · rintro ⟨rest, rfl⟩
    rw [encode_append]
    exact List.prefix_append _ _

theorem exists_split_of_encode {cs : List Char} {front behind : List UInt8} {byte : UInt8}
    (starts : ¬ Continues byte) (joined : encode cs = front ++ byte :: behind) :
    ∃ xs ys, cs = xs ++ ys ∧ encode xs = front ∧ encode ys = byte :: behind := by
  induction cs generalizing front with
  | nil => simp [encode] at joined
  | cons c cs ih =>
      rw [encode_cons] at joined
      rcases List.append_eq_append_iff.mp joined with
        ⟨more, rfl, later⟩ | ⟨more, inFirst, rest⟩
      · obtain ⟨xs, ys, rfl, rfl, ysEncoded⟩ := ih later
        exact ⟨c :: xs, ys, rfl, encode_cons c xs, ysEncoded⟩
      · obtain ⟨lead, tail, shape, -, -, continued⟩ := encodeChar_frame c
        cases front with
        | nil => exact ⟨[], c :: cs, rfl, rfl, by rw [encode_cons, joined, List.nil_append]⟩
        | cons first front =>
            cases more with
            | nil =>
                rw [List.append_nil] at inFirst
                have single : encode [c] = encodeChar c := List.append_nil _
                exact ⟨[c], cs, rfl, single.trans inFirst, rest.symm⟩
            | cons other more =>
                -- The byte would stand behind the first one of the character `c`.
                obtain ⟨rfl, -⟩ := List.cons.inj rest
                obtain ⟨-, rfl⟩ := List.cons.inj (shape.symm.trans inFirst)
                exact absurd (continued byte (by simp)) starts

theorem exists_of_encode_infix {ns cs : List Char} {front behind : List UInt8} (nonempty : ns ≠ [])
    (joined : encode cs = front ++ (encode ns ++ behind)) :
    ∃ xs ys, cs = xs ++ (ns ++ ys) ∧ encode xs = front ∧ encode ys = behind := by
  obtain ⟨n, rest, rfl⟩ := List.exists_cons_of_ne_nil nonempty
  obtain ⟨lead, tail, shape, -, starts, -⟩ := encodeChar_frame n
  have leads : encode (n :: rest) ++ behind = lead :: (tail ++ encode rest ++ behind) := by
    rw [encode_cons, shape]
    rfl
  rw [leads] at joined
  obtain ⟨xs, later, rfl, rfl, laterEncoded⟩ := exists_split_of_encode starts joined
  rw [← leads] at laterEncoded
  obtain ⟨ys, rfl⟩ := encode_prefix_iff.mp ⟨behind, laterEncoded.symm⟩
  rw [encode_append] at laterEncoded
  exact ⟨xs, ys, rfl, rfl, List.append_cancel_left laterEncoded⟩

@[simp] theorem encode_infix_iff {ns cs : List Char} : encode ns <:+: encode cs ↔ ns <:+: cs := by
  constructor
  · rintro ⟨front, behind, joined⟩
    by_cases nothing : ns = []
    · rw [nothing]
      exact List.nil_infix
    · rw [List.append_assoc] at joined
      obtain ⟨xs, ys, rfl, -, -⟩ := exists_of_encode_infix nothing joined.symm
      exact ⟨xs, ys, List.append_assoc ..⟩
  · rintro ⟨xs, ys, rfl⟩
    exact ⟨encode xs, encode ys, by rw [encode_append, encode_append]⟩

@[simp] theorem encode_eq_nil_iff {cs : List Char} : encode cs = [] ↔ cs = [] :=
  ⟨fun nothing => encode_injective nothing, fun nothing => by rw [nothing]; rfl⟩

@[simp] theorem encode_suffix_iff {ns cs : List Char} : encode ns <:+ encode cs ↔ ns <:+ cs := by
  constructor
  · rintro ⟨front, joined⟩
    by_cases nothing : ns = []
    · rw [nothing]
      exact List.nil_suffix
    · rw [← List.append_nil (encode ns)] at joined
      obtain ⟨xs, ys, rfl, -, ended⟩ := exists_of_encode_infix nothing joined.symm
      rw [encode_eq_nil_iff.mp ended, List.append_nil]
      exact List.suffix_append _ _
  · rintro ⟨xs, rfl⟩
    rw [encode_append]
    exact List.suffix_append _ _

theorem encode_cons_step (c : Char) (cs : List Char) :
    ∃ lead rest, encode (c :: cs) = lead :: rest ∧
      rest.drop (leadWidth lead - 1) = encode cs := by
  obtain ⟨lead, tail, shape, width, -⟩ := encodeChar_frame c
  refine ⟨lead, tail ++ encode cs, by rw [encode_cons, shape, List.cons_append], ?_⟩
  rw [width, Nat.add_sub_cancel, List.drop_left]

end Utf8

theorem findBytes?_isSome (needle bytes : List UInt8) :
    (findBytes? needle bytes).isSome ↔ needle <:+: bytes := by
  induction bytes with
  | nil =>
      rw [List.infix_nil, findBytes?]
      cases needle <;> simp
  | cons byte rest ih =>
      rw [List.infix_cons_iff, ← ih, findBytes?, ← List.isPrefixOf_iff_prefix]
      by_cases atFront : needle.isPrefixOf (byte :: rest) = true
      · simp [atFront]
      · rw [if_neg atFront, Option.isSome_map]
        simp [atFront]

theorem skipChars?_encode (count : Nat) (cs : List Char) :
    skipChars? count (Utf8.encode cs) =
      if count ≤ cs.length then some (Utf8.encode (cs.drop count)) else none := by
  rw [skipChars?_eq, Utf8.chars_encode, List.length_map, ← List.map_drop,
    Utf8.flatten_map_encodeChar]

def firstOccurrence? (ns cs : List Char) : Option Nat :=
  cs.tails.findIdx? ns.isPrefixOf

theorem firstOccurrence?_eq_some_iff {ns cs : List Char} {index : Nat} :
    firstOccurrence? ns cs = some index ↔
      IsLeast {place | place ≤ cs.length ∧ ns <+: cs.drop place} index := by
  rw [firstOccurrence?, findIdx?_tails_eq_some_iff]
  simp only [List.isPrefixOf_iff_prefix]

theorem firstStanding?_encode (ns cs : List Char) :
    firstStanding? (Utf8.encode ns) (Utf8.encode cs) = firstOccurrence? ns cs := by
  rw [firstStanding?, firstOccurrence?, Utf8.chars_encode, List.map_tails, List.findIdx?_map]
  congr 1
  funext rest
  rw [Function.comp_apply, Utf8.flatten_map_encodeChar, Bool.eq_iff_iff, List.isPrefixOf_iff_prefix,
    List.isPrefixOf_iff_prefix, Utf8.encode_prefix_iff]

theorem matchAtChar?_encode {ns : List Char} (nonempty : ns ≠ []) (cs : List Char) (index : Nat) :
    matchAtChar? (Utf8.encode ns) (Utf8.encode cs) index =
      (firstOccurrence? ns cs).map (index + ·) := by
  rw [matchAtChar?_eq (mt Utf8.encode_eq_nil_iff.mp nonempty), firstStanding?_encode]

namespace RowString

variable {s needle : RowString} {cs ns : List Char}

theorem contains_encode (needleWellFormed : needle.WellFormed)
    (encoded : s.content = Utf8.encode cs) (needleEncoded : needle.content = Utf8.encode ns) :
    s.contains needle = true ↔ ns <:+: cs := by
  rw [contains, Bool.or_eq_true, bytes_eq, bytes_eq, findBytes?_isSome, isEmpty_eq needleWellFormed,
    encoded, needleEncoded, Utf8.encode_infix_iff, List.isEmpty_iff, Utf8.encode_eq_nil_iff]
  refine or_iff_right_of_imp ?_
  rintro rfl
  exact List.nil_infix

theorem startsWith_encode (wellFormed : s.WellFormed) (needleWellFormed : needle.WellFormed)
    (encoded : s.content = Utf8.encode cs) (needleEncoded : needle.content = Utf8.encode ns) :
    s.startsWith needle = true ↔ ns <+: cs := by
  rw [startsWith, Bool.and_eq_true, decide_eq_true_eq, List.isPrefixOf_iff_prefix, bytes_eq,
    bytes_eq, length_eq wellFormed, length_eq needleWellFormed, encoded, needleEncoded,
    ← Utf8.encode_prefix_iff]
  exact and_iff_right_of_imp List.IsPrefix.length_le

theorem endsWith_encode (wellFormed : s.WellFormed) (needleWellFormed : needle.WellFormed)
    (encoded : s.content = Utf8.encode cs) (needleEncoded : needle.content = Utf8.encode ns) :
    s.endsWith needle = true ↔ ns <:+ cs := by
  rw [endsWith, Bool.and_eq_true, decide_eq_true_eq, List.isSuffixOf_iff_suffix, bytes_eq,
    bytes_eq, length_eq wellFormed, length_eq needleWellFormed, encoded, needleEncoded,
    ← Utf8.encode_suffix_iff]
  exact and_iff_right_of_imp List.IsSuffix.length_le

theorem indexOf_encode (needleWellFormed : needle.WellFormed)
    (encoded : s.content = Utf8.encode cs) (needleEncoded : needle.content = Utf8.encode ns)
    (start : Nat) :
    s.indexOf needle start =
      if start ≤ cs.length then (firstOccurrence? ns (cs.drop start)).map (start + ·)
      else none := by
  unfold indexOf
  rw [bytes_eq, bytes_eq, isEmpty_eq needleWellFormed, encoded, needleEncoded, skipChars?_encode]
  by_cases inside : start ≤ cs.length
  · rw [if_pos inside, if_pos inside]
    dsimp only
    by_cases nothing : ns = []
    · rw [nothing, if_pos (by rfl), firstOccurrence?]
      cases cs.drop start <;> rfl
    · rw [if_neg (by rwa [List.isEmpty_iff, Utf8.encode_eq_nil_iff]), matchAtChar?_encode nothing]
  · rw [if_neg inside, if_neg inside]

theorem indexOf_eq_some_iff (needleWellFormed : needle.WellFormed)
    (encoded : s.content = Utf8.encode cs) (needleEncoded : needle.content = Utf8.encode ns)
    (start index : Nat) :
    s.indexOf needle start = some index ↔
      IsLeast {place | start ≤ place ∧ place ≤ cs.length ∧ ns <+: cs.drop place} index := by
  rw [indexOf_encode needleWellFormed encoded needleEncoded, ← isLeast_shift]
  by_cases inside : start ≤ cs.length
  · have within (place : Nat) : place ≤ cs.length - start ↔ start + place ≤ cs.length := by omega
    rw [if_pos inside, Option.map_eq_some_iff]
    simp only [firstOccurrence?_eq_some_iff, List.length_drop, List.drop_drop, within]
  · rw [if_neg inside]
    refine iff_of_false nofun ?_
    rintro ⟨place, ⟨⟨within, -⟩, -⟩, -⟩
    omega

theorem indexOf_eq_none_iff (needleWellFormed : needle.WellFormed)
    (encoded : s.content = Utf8.encode cs) (needleEncoded : needle.content = Utf8.encode ns)
    (start : Nat) :
    s.indexOf needle start = none ↔
      ∀ place, start ≤ place → place ≤ cs.length → ¬ ns <+: cs.drop place := by
  rw [eq_none_iff_of_isLeast (indexOf_eq_some_iff needleWellFormed encoded needleEncoded start)]
  simp only [not_and]

/-- Searching bytes finds what searching the code points does. -/
theorem encoded_search (wellFormed : s.WellFormed) (needleWellFormed : needle.WellFormed)
    (encoded : s.content = Utf8.encode cs) (needleEncoded : needle.content = Utf8.encode ns) :
    (s.contains needle = true ↔ ns <:+: cs) ∧
      (s.startsWith needle = true ↔ ns <+: cs) ∧
      (s.endsWith needle = true ↔ ns <:+ cs) ∧
      (∀ start index, s.indexOf needle start = some index ↔
        IsLeast {place | start ≤ place ∧ place ≤ cs.length ∧ ns <+: cs.drop place} index) ∧
      (∀ start, s.indexOf needle start = none ↔
        ∀ place, start ≤ place → place ≤ cs.length → ¬ ns <+: cs.drop place) ∧
      (s.contains needle = true ↔ (s.indexOf needle 0).isSome) := by
  refine ⟨contains_encode needleWellFormed encoded needleEncoded,
    startsWith_encode wellFormed needleWellFormed encoded needleEncoded,
    endsWith_encode wellFormed needleWellFormed encoded needleEncoded,
    indexOf_eq_some_iff needleWellFormed encoded needleEncoded,
    indexOf_eq_none_iff needleWellFormed encoded needleEncoded, ?_⟩
  rw [contains_encode needleWellFormed encoded needleEncoded, Option.isSome_iff_ne_none, ne_eq,
    indexOf_eq_none_iff needleWellFormed encoded needleEncoded]
  push Not
  constructor
  · rintro ⟨front, behind, rfl⟩
    refine ⟨front.length, Nat.zero_le _, by simp, ?_⟩
    rw [List.append_assoc, List.drop_left]
    exact List.prefix_append _ _
  · rintro ⟨place, -, -, standing⟩
    exact standing.isInfix.trans (List.drop_suffix place cs).isInfix

theorem encoded_search_straddlingChar :
    straddlingChar.WellFormed ∧ straddlingChar.content = Utf8.encode ['a', '中', 'b'] ∧
      straddlingChar.contains (ofText "中b") = true ∧
      straddlingChar.endsWith (ofText "中b") = true ∧
      ¬ straddlingChar.startsWith (ofText "中b") = true ∧
      straddlingChar.indexOf (ofText "中b") 1 = some 1 ∧
      straddlingChar.indexOf (ofText "中b") 2 = none := by
  have needleEncoded : (ofText "中b").content = Utf8.encode ['中', 'b'] := rfl
  have ⟨within, front, back, present, absent, _⟩ :=
    encoded_search straddlingChar_wellFormed (ofText_wellFormed "中b") straddlingChar_content
      needleEncoded
  refine ⟨straddlingChar_wellFormed, straddlingChar_content, within.mpr (by decide),
    back.mpr (by decide), mt front.mp (by decide), (present 1 1).mpr ?_, (absent 2).mpr ?_⟩
  · exact ⟨⟨Nat.le_refl 1, by decide, by decide⟩, fun place found => found.1⟩
  · intro place after inside
    have cases : place = 2 ∨ place = 3 := by
      simp only [List.length_cons, List.length_nil] at inside
      omega
    rcases cases with rfl | rfl
    · decide
    · decide

end RowString

end RowText
