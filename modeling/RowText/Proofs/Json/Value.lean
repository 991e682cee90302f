import RowText.Proofs.Json.Text

/-!
# Written values are read back

`Json.Spells` says that a text is read as a value wherever a value can stand, whatever follows it.
It holds of written texts (`spells_text`) and integers (`spells_integer`), and of objects whose
members are written one behind the other (`spells_object`).
-/

namespace RowText.Json

def Ends (rest : List Char) : Prop :=
  ∀ c ∈ rest.head?, isDecimalDigit c = false ∧ c ≠ '.' ∧ c ≠ 'e' ∧ c ≠ 'E'

/-- Wherever a value is read, the text is read as this one; it is at least as long as what is read
of it is nested. -/
def Spells (text : List Char) (value : Json) : Prop :=
  ∀ depth rest, text.length ≤ depth → Ends rest →
    readValue? depth (text ++ rest) = some (value, rest)

theorem ends_nil : Ends [] := nofun

theorem ends_comma (rest : List Char) : Ends (',' :: rest) := by
  rintro c ⟨⟩
  decide

theorem ends_brace (rest : List Char) : Ends ('\x7d' :: rest) := by
  rintro c ⟨⟩
  decide

theorem read?_of_spells {text : List Char} {value : Json} (spells : Spells text value) :
    read? text = some value := by
  have read := spells (text.length + 1) [] (Nat.le_succ _) ends_nil
  rw [List.append_nil] at read
  rw [read?, read]
  rfl

theorem readValue?_quote (depth : Nat) (rest : List Char) :
    readValue? (depth + 1) ('"' :: rest) =
      (readString? rest).map fun (text, rest) => (string text, rest) := by
  rw [readValue?]
  rfl

theorem writeText_append (text rest : List Char) :
    writeText text ++ rest = '"' :: (text.flatMap escapeChar ++ '"' :: rest) := by
  simp [writeText]

theorem spells_text (text : List Char) : Spells (writeText text) (string (some text)) := by
  intro depth rest enough _
  rw [writeText, List.length_append, List.length_cons] at enough
  obtain ⟨depth, rfl⟩ := Nat.exists_eq_add_one_of_ne_zero (show depth ≠ 0 by omega)
  rw [writeText_append, readValue?_quote, readString?_written, Option.map_some]

variable {rest : List Char}

theorem Ends.takeWhile (ends : Ends rest) : rest.takeWhile isDecimalDigit = [] := by
  cases rest with
  | nil => rfl
  | cons c rest => rw [List.takeWhile_cons, (ends c rfl).1, if_neg Bool.false_ne_true]

theorem Ends.dropWhile (ends : Ends rest) : rest.dropWhile isDecimalDigit = rest := by
  conv_rhs => rw [← List.takeWhile_append_dropWhile (p := isDecimalDigit) (l := rest)]
  rw [ends.takeWhile, List.nil_append]

theorem readDigits?_append {digits : List Char} (nonempty : digits ≠ [])
    (fine : ∀ c ∈ digits, isDecimalDigit c = true) (ends : Ends rest) :
    readDigits? (digits ++ rest) = some (digits, rest) := by
  have front : (digits ++ rest).takeWhile isDecimalDigit = digits := by
    rw [List.takeWhile_append_of_pos fine, ends.takeWhile, List.append_nil]
  have behind : (digits ++ rest).dropWhile isDecimalDigit = rest := by
    rw [List.dropWhile_append_of_pos fine, ends.dropWhile]
  rw [readDigits?, front, behind]
  exact if_neg (mt List.isEmpty_iff.mp nonempty)

theorem Ends.skipFraction? (ends : Ends rest) : skipFraction? rest = some (false, rest) := by
  cases rest with
  | nil => rfl
  | cons c rest =>
      have noPoint := (ends c rfl).2.1
      rw [Json.skipFraction?]
      rintro _ ⟨⟩
      exact noPoint rfl

theorem Ends.skipExponent? (ends : Ends rest) : skipExponent? rest = some (false, rest) := by
  cases rest with
  | nil => rfl
  | cons c rest => exact if_neg (not_or.mpr (ends c rfl).2.2)

theorem digitsValue_eq (digits : List Char) :
    digitsValue digits = Nat.ofDigitChars 10 digits 0 := by
  rw [digitsValue, Nat.ofDigitChars_eq_foldl]
  simp only [Nat.mul_comm]

theorem toDigits_digit (n : Nat) : ∀ c ∈ Nat.toDigits 10 n, isDecimalDigit c = true := by
  intro c member
  have digit := Nat.isDigit_of_mem_toDigits (by decide) (by decide) member
  rw [isDecimalDigit, Bool.and_eq_true, decide_eq_true_iff, decide_eq_true_iff]
  exact Char.isDigit_iff_toNat.mp digit

theorem toDigits_head {n : Nat} (positive : 0 < n) : (Nat.toDigits 10 n).head? ≠ some '0' := by
  induction n using Nat.strongRecOn with
  | ind n ih =>
      by_cases single : n < 10
      · have front : ∀ digit < 10, 0 < digit → [digit.digitChar].head? ≠ some '0' := by decide
        rw [Nat.toDigits_of_lt_base single]
        exact front n single positive
      · have front := ih (n / 10) (by omega) (by omega)
        obtain ⟨c, others, shape⟩ :=
          List.exists_cons_of_ne_nil (@Nat.toDigits_ne_nil (n / 10) 10)
        rw [Nat.toDigits_of_base_le (by decide) (by omega), shape]
        rwa [shape] at front

theorem readNumber?_toDigits (negative : Bool) (n : Nat) (ends : Ends rest) :
    readNumber? negative (Nat.toDigits 10 n ++ rest) = some (number negative n true, rest) := by
  have noZeros : ¬ ((Nat.toDigits 10 n).head? = some '0' ∧ 1 < (Nat.toDigits 10 n).length) := by
    rintro ⟨zero, long⟩
    rcases Nat.eq_zero_or_pos n with rfl | positive
    · exact absurd long (by decide)
    · exact toDigits_head positive zero
  rw [readNumber?, readDigits?_append Nat.toDigits_ne_nil (toDigits_digit n) ends]
  simp only [Option.bind_eq_bind, Option.bind_some, if_neg noZeros, ends.skipFraction?,
    ends.skipExponent?, digitsValue_eq, Nat.ofDigitChars_ten_toDigits]
  rfl

theorem skipSpace_cons {c : Char} (solid : isSpace c = false) (rest : List Char) :
    skipSpace (c :: rest) = c :: rest := by
  rw [skipSpace, List.dropWhile_cons, solid, if_neg Bool.false_ne_true]

theorem readValue?_minus (depth : Nat) (rest : List Char) :
    readValue? (depth + 1) ('-' :: rest) = readNumber? true rest := by
  rw [readValue?]
  rfl

theorem readValue?_digit {c : Char} (digit : isDecimalDigit c = true) (depth : Nat)
    (rest : List Char) :
    readValue? (depth + 1) (c :: rest) = readNumber? false (c :: rest) := by
  have solid : isSpace c = false := by
    rw [Bool.eq_false_iff]
    intro space
    simp only [isSpace, Bool.or_eq_true, beq_iff_eq] at space
    rcases space with ((rfl | rfl) | rfl) | rfl
    all_goals cases digit
  rw [readValue?, skipSpace_cons solid]
  split
  case h_8 => rfl
  -- No other kind of value starts with a digit.
  all_goals
    rename_i same
    cases same
    cases digit

def ofInteger (value : Int) : Json := number (decide (value < 0)) value.natAbs true

@[simp] theorem integer?_ofInteger (value : Int) : (ofInteger value).integer? = some value := by
  rw [ofInteger, integer?]
  by_cases negative : value < 0
  · rw [decide_eq_true negative, if_pos rfl]
    congr 1
    omega
  · rw [decide_eq_false negative, if_neg Bool.false_ne_true]
    congr 1
    omega

theorem spells_natural (n : Nat) : Spells (Nat.toDigits 10 n) (number false n true) := by
  intro depth rest enough ends
  obtain ⟨c, others, shape⟩ := List.exists_cons_of_ne_nil (@Nat.toDigits_ne_nil n 10)
  rw [shape, List.length_cons] at enough
  obtain ⟨depth, rfl⟩ := Nat.exists_eq_add_one_of_ne_zero (show depth ≠ 0 by omega)
  have digit : isDecimalDigit c = true := by
    apply toDigits_digit n
    rw [shape]
    exact List.mem_cons_self
  have read := readNumber?_toDigits false n ends
  rw [shape, List.cons_append] at read ⊢
  rw [readValue?_digit digit, read]

theorem spells_negative (n : Nat) : Spells ('-' :: Nat.toDigits 10 n) (number true n true) := by
  intro depth rest enough ends
  rw [List.length_cons] at enough
  obtain ⟨depth, rfl⟩ := Nat.exists_eq_add_one_of_ne_zero (show depth ≠ 0 by omega)
  rw [List.cons_append, readValue?_minus, readNumber?_toDigits true n ends]

theorem toList_toString_nat (n : Nat) : (toString n).toList = Nat.toDigits 10 n :=
  Nat.toList_repr

theorem spells_integer (value : Int) : Spells (toString value).toList (ofInteger value) := by
  have printed : toString value = value.repr := rfl
  rw [printed, Int.repr_eq_if, ofInteger]
  by_cases negative : value < 0
  · have magnitude : (-value).toNat = value.natAbs := by omega
    rw [if_neg (by omega), String.toList_append, Nat.toList_repr, magnitude,
      decide_eq_true negative]
    exact spells_negative value.natAbs
  · have magnitude : value.toNat = value.natAbs := by omega
    rw [if_pos (by omega), Nat.toList_repr, magnitude, decide_eq_false negative]
    exact spells_natural value.natAbs

inductive SpellsMembers : List Char → List (Option (List Char) × Json) → Prop
  | last (key : List Char) {text : List Char} {value : Json} (spells : Spells text value) :
      SpellsMembers (writeText key ++ ':' :: text) [(some key, value)]
  | next (key : List Char) {text others : List Char} {value : Json}
      {members : List (Option (List Char) × Json)} (spells : Spells text value)
      (rest : SpellsMembers others members) :
      SpellsMembers (writeText key ++ ':' :: (text ++ ',' :: others))
        ((some key, value) :: members)

variable {key text : List Char} {value : Json} {depth : Nat}

theorem readMembers?_member (spells : Spells text value) (enough : text.length ≤ depth)
    (ends : Ends rest) :
    readMembers? (depth + 1) (writeText key ++ ':' :: (text ++ rest)) =
      match skipSpace rest with
      | ',' :: rest => do
        let (members, rest) ← readMembers? depth rest
        return ((some key, value) :: members, rest)
      | '\x7d' :: rest => return ([(some key, value)], rest)
      | _ => none := by
  have quote (rest : List Char) : skipSpace ('"' :: rest) = '"' :: rest := skipSpace_cons rfl rest
  have colon (rest : List Char) : skipSpace (':' :: rest) = ':' :: rest := skipSpace_cons rfl rest
  rw [writeText_append, readMembers?, quote]
  simp only [Option.bind_eq_bind, readString?_written, Option.bind_some, colon]
  rw [spells depth rest enough ends]
  rfl

theorem readMembers?_last (spells : Spells text value) (enough : text.length ≤ depth) :
    readMembers? (depth + 1) (writeText key ++ ':' :: (text ++ '\x7d' :: rest)) =
      some ([(some key, value)], rest) := by
  rw [readMembers?_member spells enough (ends_brace rest), skipSpace_cons rfl]
  rfl

theorem readMembers?_next (spells : Spells text value) (enough : text.length ≤ depth) :
    readMembers? (depth + 1) (writeText key ++ ':' :: (text ++ ',' :: rest)) =
      (readMembers? depth rest).map fun (members, rest) => ((some key, value) :: members, rest) := by
  rw [readMembers?_member spells enough (ends_comma rest), skipSpace_cons rfl]
  change (readMembers? depth rest).bind _ = _
  cases readMembers? depth rest <;> rfl

theorem readMembers?_spelled {text : List Char} {members : List (Option (List Char) × Json)}
    (spells : SpellsMembers text members) (enough : text.length < depth) :
    readMembers? depth (text ++ '\x7d' :: rest) = some (members, rest) := by
  induction spells generalizing depth with
  | last key spells =>
      obtain ⟨depth, rfl⟩ := Nat.exists_eq_add_one_of_ne_zero (show depth ≠ 0 by omega)
      rw [List.length_append, List.length_cons] at enough
      rw [List.append_assoc, List.cons_append]
      exact readMembers?_last spells (by omega)
  | next key spells others ih =>
      obtain ⟨depth, rfl⟩ := Nat.exists_eq_add_one_of_ne_zero (show depth ≠ 0 by omega)
      simp only [List.length_append, List.length_cons] at enough
      simp only [List.append_assoc, List.cons_append]
      rw [readMembers?_next spells (by omega), ih (by omega), Option.map_some]

theorem SpellsMembers.quoted {text : List Char} {members : List (Option (List Char) × Json)}
    (spells : SpellsMembers text members) : ∃ others, text = '"' :: others := by
  cases spells with
  | last key spells => exact ⟨_, writeText_append key _⟩
  | next key spells others => exact ⟨_, writeText_append key _⟩

theorem readValue?_brace (depth : Nat) (rest : List Char) :
    readValue? (depth + 1) ('\x7b' :: '"' :: rest) =
      (readMembers? depth ('"' :: rest)).map fun (members, rest) => (object members, rest) := by
  rw [readValue?]
  rfl

theorem spells_object {text : List Char} {members : List (Option (List Char) × Json)}
    (spells : SpellsMembers text members) :
    Spells ('\x7b' :: (text ++ ['\x7d'])) (object members) := by
  intro depth rest enough _
  rw [List.length_cons, List.length_append, List.length_singleton] at enough
  obtain ⟨depth, rfl⟩ := Nat.exists_eq_add_one_of_ne_zero (show depth ≠ 0 by omega)
  have read : readMembers? depth (text ++ '\x7d' :: rest) = some (members, rest) :=
    readMembers?_spelled spells (by omega)
  obtain ⟨others, rfl⟩ := spells.quoted
  rw [List.cons_append, List.append_assoc, List.cons_append, readValue?_brace]
  exact congrArg (Option.map _) read

end RowText.Json
