import RowText.Proofs.Decimal.FastPath

namespace RowText.Decimal

theorem encodeChar_digit {c : Char} (digit : c.isDigit = true) :
    Utf8.encodeChar c = [.ofNat c.toNat] := by
  have range := Char.isDigit_iff_toNat.mp digit
  have ascii : c.toNat < 0x80 := range.2.trans_lt (by decide)
  rw [Utf8.encodeChar, if_pos ascii]

theorem encode_digits {cs : List Char} (digits : ∀ c ∈ cs, c.isDigit = true) :
    Utf8.encode cs = cs.map fun c => .ofNat c.toNat := by
  induction cs with
  | nil => rfl
  | cons c rest ih =>
      have ⟨first, others⟩ := List.forall_mem_cons.mp digits
      rw [Utf8.encode_cons, encodeChar_digit first, ih others, List.map_cons, List.singleton_append]

theorem toNat_digitByte {c : Char} (digit : c.isDigit = true) :
    (UInt8.ofNat c.toNat).toNat = c.toNat := by
  have range := Char.isDigit_iff_toNat.mp digit
  exact UInt8.toNat_ofNat_of_lt' (range.2.trans_lt (by decide))

theorem digits_encode {cs : List Char} (digits : ∀ c ∈ cs, c.isDigit = true) :
    Digits (Utf8.encode cs) := by
  rw [encode_digits digits]
  intro byte member
  obtain ⟨c, inside, rfl⟩ := List.mem_map.mp member
  have range := Char.isDigit_iff_toNat.mp (digits c inside)
  rw [isDigit, Bool.and_eq_true, decide_eq_true_iff, decide_eq_true_iff, UInt8.le_iff_toNat_le,
    UInt8.le_iff_toNat_le, toNat_digitByte (digits c inside)]
  exact range

theorem magnitude_encode {cs : List Char} (digits : ∀ c ∈ cs, c.isDigit = true) :
    magnitude ((Utf8.encode cs).map digitValue) = Nat.ofDigitChars 10 cs 0 := by
  rw [encode_digits digits, List.map_map]
  induction cs with
  | nil => rfl
  | cons c rest ih =>
      have ⟨first, others⟩ := List.forall_mem_cons.mp digits
      have value : digitValue (.ofNat c.toNat) = c.toNat - '0'.toNat := by
        rw [digitValue, toNat_digitByte first]
        rfl
      have shifted : Nat.ofDigitChars 10 (c :: rest) 0 =
          10 ^ rest.length * (c.toNat - '0'.toNat) + Nat.ofDigitChars 10 rest 0 := by
        rw [Nat.ofDigitChars_cons, Nat.mul_zero, Nat.zero_add]
        exact Nat.ofDigitChars_eq_ofDigitChars_zero
      rw [List.map_cons, magnitude_cons, ih others, List.length_map, Function.comp_apply, value,
        shifted, Nat.mul_comm]

def printedDigits (d : Decimal) : List Char :=
  padDigits (d.type.scale.toNat + 1) (Nat.toDigits 10 d.unscaled.natAbs)

theorem printedDigits_isDigit (d : Decimal) : ∀ c ∈ d.printedDigits, c.isDigit = true := by
  intro c member
  rcases List.mem_append.mp member with zero | digit
  · rw [List.eq_of_mem_replicate zero]
    rfl
  · exact Nat.isDigit_of_mem_toDigits (by decide) (by decide) digit

theorem scale_lt_printedDigits (d : Decimal) : d.type.scale.toNat < d.printedDigits.length := by
  rw [printedDigits, padDigits, List.length_append, List.length_replicate]
  omega

theorem ofDigitChars_printedDigits (d : Decimal) :
    Nat.ofDigitChars 10 d.printedDigits 0 = d.unscaled.natAbs := by
  rw [printedDigits, padDigits, Nat.ofDigitChars_append, Nat.ofDigitChars_replicate_zero,
    Nat.mul_zero, Nat.ofDigitChars_ten_toDigits]

def pointPlace (d : Decimal) : Nat := d.printedDigits.length - d.type.scale.toNat

def printedWhole (d : Decimal) : List UInt8 := Utf8.encode (d.printedDigits.take d.pointPlace)

def printedFraction (d : Decimal) : Option (List UInt8) :=
  if d.type.scale.toNat = 0 then none else some (Utf8.encode (d.printedDigits.drop d.pointPlace))

theorem printedWhole_digits (d : Decimal) : Digits d.printedWhole :=
  digits_encode fun c member => d.printedDigits_isDigit c (List.mem_of_mem_take member)

theorem printedFraction_digits (d : Decimal) : Digits (d.printedFraction.getD []) := by
  unfold printedFraction
  split
  · exact nofun
  · exact digits_encode fun c member => d.printedDigits_isDigit c (List.mem_of_mem_drop member)

theorem printed_append (d : Decimal) :
    d.printedWhole ++ d.printedFraction.getD [] = Utf8.encode d.printedDigits := by
  unfold printedWhole printedFraction
  split
  next whole =>
    rw [pointPlace, whole, Nat.sub_zero, List.take_length]
    exact List.append_nil _
  next =>
    rw [Option.getD_some, ← Utf8.encode_append, List.take_append_drop]

theorem printedFraction_length (d : Decimal) :
    (d.printedFraction.getD []).length = d.type.scale.toNat := by
  have enough := d.scale_lt_printedDigits
  unfold printedFraction
  split
  next whole => exact whole.symm
  next =>
    have digits : ∀ c ∈ d.printedDigits.drop d.pointPlace, c.isDigit = true :=
      fun c member => d.printedDigits_isDigit c (List.mem_of_mem_drop member)
    rw [Option.getD_some, encode_digits digits, List.length_map, List.length_drop, pointPlace]
    omega

theorem printed_ne_nil (d : Decimal) : d.printedWhole ++ d.printedFraction.getD [] ≠ [] := by
  have enough := d.scale_lt_printedDigits
  rw [printed_append, encode_digits d.printedDigits_isDigit]
  apply List.ne_nil_of_length_pos
  rw [List.length_map]
  omega

def numeral (d : Decimal) : Numeral where
  sign := if d.unscaled < 0 then .minus else .absent
  whole := d.printedWhole
  fraction := d.printedFraction
  exponent := none
  wholeFine := d.printedWhole_digits
  fractionFine := d.printedFraction_digits
  nonempty := d.printed_ne_nil

theorem encodeText_render (d : Decimal) : Utf8.encodeText d.render = d.numeral.spell := by
  have sign : Utf8.encode (if d.unscaled < 0 then ['-'] else []) = d.numeral.sign.spell := by
    unfold numeral
    split <;> rfl
  have parts : d.numeral.spell = d.numeral.sign.spell ++
      (d.printedWhole ++ (Numeral.spellFraction d.printedFraction ++ [])) := rfl
  rw [parts, ← sign, List.append_nil]
  unfold render printedWhole printedFraction
  dsimp only
  split
  next whole =>
    have unpadded : d.printedDigits = Nat.toDigits 10 d.unscaled.natAbs := by
      have present := Nat.length_toDigits_pos (b := 10) (n := d.unscaled.natAbs)
      rw [printedDigits, padDigits, whole, Nat.zero_add, Nat.sub_eq_zero_of_le present]
      rfl
    rw [pointPlace, whole, Nat.sub_zero, List.take_length, unpadded, Utf8.encodeText,
      String.toList_ofList, Utf8.encode_append]
    exact congrArg (_ ++ ·) (List.append_nil _).symm
  next =>
    rw [Utf8.encodeText, String.toList_ofList, Utf8.encode_append, Utf8.encode_append,
      Utf8.encode_cons, List.append_assoc]
    rfl

theorem numeral_magnitude (d : Decimal) :
    magnitude d.numeral.literal.digits = d.unscaled.natAbs := by
  change magnitude ((d.printedWhole ++ d.printedFraction.getD []).map digitValue) = _
  rw [printed_append, magnitude_encode d.printedDigits_isDigit, ofDigitChars_printedDigits]

theorem numeral_changeOf (d : Decimal) : changeOf d.numeral.literal d.type = 0 := by
  have scale := d.type.scale.toNat_lt
  have exponent : d.numeral.literal.exponent = 0 := rfl
  have fraction : d.numeral.literal.fraction.length = d.type.scale.toNat :=
    d.printedFraction_length
  rw [changeOf, DecimalLiteral.scaleExponent, exponent, fraction]
  simp only [IntWidth.clamp, least_w64, greatest_w64]
  omega

theorem nearest?_numeral {d : Decimal} (fits : d.unscaled.natAbs < 10 ^ d.type.precision.toNat) :
    nearest? d.numeral.literal d.type = some d := by
  have same : scaled d.unscaled.natAbs 0 = d.unscaled.natAbs := Nat.mul_one _
  have signed : (if d.numeral.literal.negative then -(d.unscaled.natAbs : Int)
      else d.unscaled.natAbs) = d.unscaled := by
    have sign : d.numeral.literal.negative = decide (d.unscaled < 0) := by
      change (if d.unscaled < 0 then Sign.minus else Sign.absent).isMinus = _
      split
      next negative => exact (decide_eq_true negative).symm
      next nonneg => exact (decide_eq_false nonneg).symm
    rw [sign]
    by_cases negative : d.unscaled < 0
    · rw [if_pos (decide_eq_true negative)]
      omega
    · rw [if_neg (by simpa using negative)]
      omega
  rw [nearest?, numeral_magnitude, numeral_changeOf, same, within?, if_pos fits, signed]

theorem lex?_render (d : Decimal) :
    DecimalLiteral.lex? (Utf8.encodeText d.render) = some d.numeral.literal := by
  apply DecimalLiteral.lex?_of_spell
  rw [encodeText_render, Numeral.trimSpace_spell]

theorem create_eq {type : DecimalType} (valid : type.isValid = true) (unscaled : Int) :
    create unscaled type =
      if unscaled.natAbs < 10 ^ type.precision.toNat then .ok ⟨unscaled, type⟩
      else .error (.invalidArgument s!"unscaled value {unscaled} does not fit {type.render}") := by
  rw [create, fit?_eq unscaled (precision_of_valid valid).1]
  by_cases fits : unscaled.natAbs < 10 ^ type.precision.toNat
  · rw [if_pos fits, if_pos fits]
  · rw [if_neg fits, if_neg fits]

theorem create_eq_ok_iff {unscaled : Int} {type : DecimalType} {d : Decimal}
    (valid : type.isValid = true) :
    create unscaled type = .ok d ↔
      unscaled.natAbs < 10 ^ type.precision.toNat ∧ d = ⟨unscaled, type⟩ := by
  rw [create_eq valid]
  by_cases fits : unscaled.natAbs < 10 ^ type.precision.toNat
  · rw [if_pos fits]
    exact ⟨fun made => ⟨fits, (Except.ok.inj made).symm⟩, fun ⟨_, same⟩ => congrArg _ same.symm⟩
  · rw [if_neg fits]
    exact ⟨nofun, fun ⟨small, _⟩ => absurd small fits⟩

/-- Reading what a decimal is printed as gives it back, so decimals of one type print apart. -/
theorem parse_render {type : DecimalType} (valid : type.isValid = true) {unscaled : Int}
    {d : Decimal} (made : create unscaled type = .ok d) :
    parse d.render d.type = .ok (some d) ∧
      (∀ s : RowString, s.content = Utf8.encodeText d.render →
        s.castDecimal d.type = .ok (some d)) ∧
      ∀ (other : Int) (e : Decimal), create other type = .ok e → other ≠ unscaled →
        e.render ≠ d.render := by
  have readBack {value : Int} {e : Decimal} (done : create value type = .ok e) :
      (DecimalLiteral.lex? (Utf8.encodeText e.render)).bind (nearest? · type) = some e := by
    obtain ⟨fits, rfl⟩ := (create_eq_ok_iff valid).mp done
    rw [lex?_render, Option.bind_some]
    exact nearest?_numeral fits
  have read := readBack made
  have typed : d.type = type := by
    rw [((create_eq_ok_iff valid).mp made).2]
  rw [typed]
  refine ⟨?_, ?_, ?_⟩
  · rw [parse, parseBytes_eq valid, read]
  · intro s printed
    rw [RowString.castDecimal, RowString.bytes_eq, cast_eq valid, printed, read]
  · intro other e otherMade apart alike
    have otherRead := readBack otherMade
    rw [alike, read] at otherRead
    rw [((create_eq_ok_iff valid).mp made).2, ((create_eq_ok_iff valid).mp otherMade).2]
      at otherRead
    exact apart (congrArg Decimal.unscaled (Option.some.inj otherRead)).symm

theorem parse_render_straddling :
    (⟨3, 1⟩ : DecimalType).isValid = true ∧ create 15 ⟨3, 1⟩ = .ok ⟨15, ⟨3, 1⟩⟩ ∧
      (⟨15, ⟨3, 1⟩⟩ : Decimal).render = "1.5" ∧
      RowString.straddling.castDecimal ⟨3, 1⟩ = .ok (some ⟨15, ⟨3, 1⟩⟩) ∧
      create (-5) ⟨38, 38⟩ = .ok ⟨-5, ⟨38, 38⟩⟩ ∧
      parse "-0.00000000000000000000000000000000000005" ⟨38, 38⟩ = .ok (some ⟨-5, ⟨38, 38⟩⟩) := by
  have made : create 15 ⟨3, 1⟩ = .ok ⟨15, ⟨3, 1⟩⟩ :=
    (create_eq_ok_iff (by decide)).mpr ⟨by decide, rfl⟩
  have tiny : create (-5) ⟨38, 38⟩ = .ok ⟨-5, ⟨38, 38⟩⟩ :=
    (create_eq_ok_iff (by decide)).mpr ⟨by decide, rfl⟩
  have ⟨_, strings, _⟩ := parse_render (by decide) made
  have ⟨parsed, _, _⟩ := parse_render (by decide) tiny
  exact ⟨by decide, made, by decide, strings _ (by decide), tiny, parsed⟩

end RowText.Decimal
