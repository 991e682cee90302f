import RowText.Proofs.WholeCharacters

/-!
# Case mapping twice

The bytes of an ASCII string are mapped one by one and those of any other string through its text,
with one result (`RowString.mapCase_content`). No mapping maps its own images any further, on
whichever path they are mapped again, so mapping a second time changes nothing
(`RowString.case_mapping_settles`).
-/

namespace RowText

namespace Unicode

def codeSet : List Nat → Nat
  | [] => 0
  | code :: rest => codeSet rest ||| 1 <<< code

theorem testBit_codeSet (codes : List Nat) (code : Nat) :
    (codeSet codes).testBit code = decide (code ∈ codes) := by
  induction codes with
  | nil => simp [codeSet]
  | cons first rest ih =>
      rw [codeSet, Nat.testBit_or, ih, Nat.one_shiftLeft, Nat.testBit_two_pow]
      simp only [List.mem_cons, Bool.decide_or, Bool.or_comm, eq_comm]

theorem not_mem_of_codeSet {xs ys : List Nat} (apart : codeSet xs &&& codeSet ys = 0) :
    ∀ code ∈ xs, code ∉ ys := by
  intro code inXs inYs
  have both := congrArg (Nat.testBit · code) apart
  simp only [Nat.testBit_and, testBit_codeSet, inXs, inYs, Nat.zero_testBit] at both
  simp at both

def CaseRun.codes (run : CaseRun) : List Nat :=
  (List.range ((run.last - run.first) / run.stride + 1)).map (run.first + run.stride * ·)

theorem CaseRun.mem_codes {run : CaseRun} {code : Nat} (covered : run.covers code = true) :
    code ∈ run.codes := by
  rw [covers, Bool.and_eq_true, Bool.and_eq_true, decide_eq_true_iff, decide_eq_true_iff,
    beq_iff_eq] at covered
  obtain ⟨⟨low, high⟩, divides⟩ := covered
  have steps : run.stride * ((code - run.first) / run.stride) = code - run.first :=
    Nat.mul_div_cancel' (Nat.dvd_of_mod_eq_zero divides)
  have few : (code - run.first) / run.stride ≤ (run.last - run.first) / run.stride :=
    Nat.div_le_div_right (Nat.sub_le_sub_right high _)
  refine List.mem_map.mpr ⟨_, List.mem_range.mpr (Nat.lt_succ_of_le few), ?_⟩
  omega

section

variable (expansions : List (Nat × List Nat)) (runs : List CaseRun)

def sources : List Nat := expansions.map Prod.fst ++ runs.flatMap CaseRun.codes

def images : List Nat :=
  expansions.flatMap Prod.snd ++
    runs.flatMap fun run => run.codes.map fun code : Nat => (code + run.shift).toNat

def Settled : Prop := ∀ code ∈ 0 :: images expansions runs, code ∉ sources expansions runs

def Unmapped (code : Nat) : Prop :=
  expansions.lookup code = none ∧ runs.find? (·.covers code) = none

def MapsAscii (byteMap : UInt8 → UInt8) : Prop :=
  ∀ n < 0x80,
    if (codeSet (sources expansions runs)).testBit n then
      mapChar expansions runs (Char.ofNat n) = [Char.ofNat (byteMap (.ofNat n)).toNat]
    else byteMap (.ofNat n) = .ofNat n

end

theorem settled_upper : Settled upperExpansions upperRuns :=
  not_mem_of_codeSet (by decide +kernel)

theorem settled_lower : Settled lowerExpansions lowerRuns :=
  not_mem_of_codeSet (by decide +kernel)

theorem mapsAscii_upper : MapsAscii upperExpansions upperRuns upperByte := by
  unfold MapsAscii
  decide +kernel

theorem mapsAscii_lower : MapsAscii lowerExpansions lowerRuns lowerByte := by
  unfold MapsAscii
  decide +kernel

section

variable {expansions : List (Nat × List Nat)} {runs : List CaseRun} {c d : Char}

theorem mapChar_of_unmapped (unmapped : Unmapped expansions runs c.toNat) :
    mapChar expansions runs c = [c] := by
  obtain ⟨unexpanded, uncovered⟩ := unmapped
  simp only [mapChar, unexpanded, shiftCode, uncovered, Char.ofNat_toNat]

theorem unmapped_of_not_mem_sources {code : Nat} (absent : code ∉ sources expansions runs) :
    Unmapped expansions runs code := by
  rw [sources, List.mem_append, not_or] at absent
  constructor
  · rw [List.lookup_eq_none_iff]
    intro entry inside
    rw [bne_iff_ne]
    rintro rfl
    exact absent.1 (List.mem_map_of_mem inside)
  · rw [List.find?_eq_none]
    intro run inside covered
    exact absent.2 (List.mem_flatMap.mpr ⟨run, inside, CaseRun.mem_codes covered⟩)

theorem mapChar_cases (image : d ∈ mapChar expansions runs c) :
    (∃ code ∈ images expansions runs, d = Char.ofNat code) ∨
      (Unmapped expansions runs c.toNat ∧ d = c) := by
  cases expansion : expansions.lookup c.toNat with
  | some codes =>
      simp only [mapChar, expansion] at image
      obtain ⟨code, inside, rfl⟩ := List.mem_map.mp image
      obtain ⟨front, behind, table, -⟩ := List.lookup_eq_some_iff.mp expansion
      have entry : (c.toNat, codes) ∈ expansions := by simp [table]
      exact Or.inl ⟨code, List.mem_append_left _ (List.mem_flatMap.mpr ⟨_, entry, inside⟩), rfl⟩
  | none =>
      simp only [mapChar, expansion, shiftCode, List.mem_singleton] at image
      cases covering : runs.find? (·.covers c.toNat) with
      | some run =>
          simp only [covering] at image
          have covered := List.find?_some covering
          refine Or.inl ⟨_, List.mem_append_right _ (List.mem_flatMap.mpr ⟨run, ?_, ?_⟩), image⟩
          · exact List.mem_of_find?_eq_some covering
          · exact List.mem_map.mpr ⟨_, CaseRun.mem_codes covered, rfl⟩
      | none =>
          simp only [covering, Char.ofNat_toNat] at image
          exact Or.inr ⟨⟨expansion, covering⟩, image⟩

theorem unmapped_of_mem_mapChar (settled : Settled expansions runs)
    (image : d ∈ mapChar expansions runs c) : Unmapped expansions runs d.toNat := by
  rcases mapChar_cases image with ⟨code, inside, rfl⟩ | ⟨unmapped, rfl⟩
  · apply unmapped_of_not_mem_sources
    by_cases valid : code.isValidChar
    · rw [Utf8.toNat_ofNat_char valid]
      exact settled code (List.mem_cons_of_mem _ inside)
    · -- A code that is no scalar value stands for zero.
      rw [Char.ofNat, dif_neg valid]
      exact settled 0 List.mem_cons_self
  · exact unmapped

theorem mapChar_ascii {byteMap : UInt8 → UInt8} (mapsAscii : MapsAscii expansions runs byteMap)
    {n : Nat} (ascii : n < 0x80) :
    mapChar expansions runs (Char.ofNat n) = [Char.ofNat (byteMap (.ofNat n)).toNat] := by
  have mapped := mapsAscii n ascii
  simp only [testBit_codeSet, decide_eq_true_iff] at mapped
  split at mapped
  next => exact mapped
  next absent =>
    have code : (Char.ofNat n).toNat = n := Utf8.toNat_ofNat_char (Or.inl (by omega))
    rw [mapped, UInt8.toNat_ofNat_of_lt' (by simp [UInt8.size]; omega)]
    exact mapChar_of_unmapped (unmapped_of_not_mem_sources (by rwa [code]))

end

@[simp] theorem upper_upper (cs : List Char) : upper (upper cs) = upper cs := by
  have fixed : ∀ d ∈ upper cs, upperChar d = [d] := by
    intro d member
    obtain ⟨c, -, image⟩ := List.mem_flatMap.mp member
    exact mapChar_of_unmapped (unmapped_of_mem_mapChar settled_upper image)
  calc
    upper (upper cs) = (upper cs).flatMap fun d => [d] := List.flatMap_congr fixed
    _ = upper cs := List.flatMap_singleton' _

theorem unmapped_of_mem_lower {cs : List Char} {d : Char} (member : d ∈ lower cs) :
    Unmapped lowerExpansions lowerRuns d.toNat := by
  rcases mem_lowerFrom member with rfl | rfl | ⟨c, -, image⟩
  · exact ⟨by decide +kernel, by decide +kernel⟩
  · exact ⟨by decide +kernel, by decide +kernel⟩
  · exact unmapped_of_mem_mapChar settled_lower image

theorem lowerFrom_of_unmapped {ds : List Char}
    (unmapped : ∀ d ∈ ds, Unmapped lowerExpansions lowerRuns d.toNat) (before : List Char) :
    lowerFrom before ds = ds := by
  induction ds generalizing before with
  | nil => rfl
  | cons d rest ih =>
      obtain ⟨first, others⟩ := List.forall_mem_cons.mp unmapped
      -- Only what stands around a capital sigma matters, and none is left.
      have small : d ≠ '\u03A3' := by
        rintro rfl
        exact absurd first.2 (by decide +kernel)
      rw [lowerFrom, if_neg small, lowerChar, mapChar_of_unmapped first, ih others,
        List.singleton_append]

@[simp] theorem lower_lower (cs : List Char) : lower (lower cs) = lower cs :=
  lowerFrom_of_unmapped (fun _ => unmapped_of_mem_lower) []

section

open Utf8 (asciiChar)

variable {bytes : List UInt8}

theorem mapChar_asciiChar {expansions : List (Nat × List Nat)} {runs : List CaseRun}
    {byteMap : UInt8 → UInt8} (mapsAscii : MapsAscii expansions runs byteMap) {byte : UInt8}
    (ascii : byte < 0x80) :
    mapChar expansions runs (asciiChar byte) = [asciiChar (byteMap byte)] := by
  rw [UInt8.lt_iff_toNat_lt] at ascii
  have mapped := mapChar_ascii mapsAscii ascii
  rwa [UInt8.ofNat_toNat] at mapped

theorem upper_asciiChar (ascii : ∀ byte ∈ bytes, byte < 0x80) :
    upper (bytes.map asciiChar) = (bytes.map upperByte).map asciiChar := by
  induction bytes with
  | nil => rfl
  | cons byte rest ih =>
      obtain ⟨first, others⟩ := List.forall_mem_cons.mp ascii
      have later : (rest.map asciiChar).flatMap upperChar = _ := ih others
      rw [List.map_cons, upper, List.flatMap_cons, later, upperChar,
        mapChar_asciiChar mapsAscii_upper first]
      rfl

theorem lowerFrom_asciiChar (ascii : ∀ byte ∈ bytes, byte < 0x80) (before : List Char) :
    lowerFrom before (bytes.map asciiChar) = (bytes.map lowerByte).map asciiChar := by
  induction bytes generalizing before with
  | nil => rfl
  | cons byte rest ih =>
      obtain ⟨first, others⟩ := List.forall_mem_cons.mp ascii
      have small : asciiChar byte ≠ '\u03A3' := by
        intro same
        simp only [UInt8.lt_iff_toNat_lt, UInt8.reduceToNat] at first
        have code := congrArg Char.toNat same
        rw [asciiChar, Utf8.toNat_ofNat_char (Or.inl (by omega))] at code
        change byte.toNat = 0x3A3 at code
        omega
      rw [List.map_cons, lowerFrom, if_neg small, lowerChar,
        mapChar_asciiChar mapsAscii_lower first, ih others]
      rfl

end

end Unicode

namespace RowString

variable {s : RowString}

theorem mapCase_content (wellFormed : s.WellFormed) {byteMap : UInt8 → UInt8}
    {textMap : List Char → List Char}
    (agree : ∀ bytes, (∀ byte ∈ bytes, byte < 0x80) →
      bytes.map byteMap = Utf8.encode (textMap (Utf8.decode bytes))) :
    (s.mapCase byteMap textMap).content = Utf8.encode (textMap (Utf8.decode s.content)) := by
  rw [mapCase_eq, isAscii]
  rw [bytes_eq]
  split
  next allAscii =>
    apply agree
    intro byte member
    simpa [isAsciiByte] using List.all_eq_true.mp allAscii byte member
  next =>
    rw [content_ofText, Utf8.encodeText, String.toList_ofList, asText_eq wellFormed,
      Utf8.decodeText, String.toList_ofList]

theorem upper_content (wellFormed : s.WellFormed) :
    s.upper.content = Utf8.encode (Unicode.upper (Utf8.decode s.content)) := by
  refine mapCase_content wellFormed fun bytes ascii => ?_
  rw [Utf8.decode_ascii ascii, Unicode.upper_asciiChar ascii, Utf8.encode_asciiChar]
  exact List.forall_mem_map.mpr fun byte member => upperByte_ascii (ascii byte member)

theorem lower_content (wellFormed : s.WellFormed) :
    s.lower.content = Utf8.encode (Unicode.lower (Utf8.decode s.content)) := by
  refine mapCase_content wellFormed fun bytes ascii => ?_
  rw [Utf8.decode_ascii ascii, Unicode.lower, Unicode.lowerFrom_asciiChar ascii,
    Utf8.encode_asciiChar]
  exact List.forall_mem_map.mpr fun byte member => lowerByte_ascii (ascii byte member)

/-- A string is mapped as the text that its bytes decode to, whatever the bytes are, and mapping it
again changes nothing, also where only the image is ASCII. -/
theorem case_mapping_settles (wellFormed : s.WellFormed) :
    (s.upper.content = Utf8.encode (Unicode.upper (Utf8.decode s.content)) ∧
      s.upper.upper.content = s.upper.content) ∧
    (s.lower.content = Utf8.encode (Unicode.lower (Utf8.decode s.content)) ∧
      s.lower.lower.content = s.lower.content) := by
  have upperWellFormed : s.upper.WellFormed := mapCase_wellFormed _ _ s
  have lowerWellFormed : s.lower.WellFormed := mapCase_wellFormed _ _ s
  refine ⟨⟨upper_content wellFormed, ?_⟩, ⟨lower_content wellFormed, ?_⟩⟩
  · simp [upper_content upperWellFormed, upper_content wellFormed]
  · simp [lower_content lowerWellFormed, lower_content wellFormed]

def straddlingCases : RowString :=
  view ⟨[⟨[0x20, 0xC3, 0x9F, 0xC5]⟩, ⟨[]⟩, ⟨[0xBF, 0x20]⟩], 1, 4⟩ none

def malformedCases : RowString := ofBytes [0xCE, 0x91, 0xCE, 0xA3, 0xFF]

theorem case_mapping_settles_straddlingCases :
    straddlingCases.WellFormed ∧ straddlingCases.isAscii = false ∧
      straddlingCases.upper.content = [0x53, 0x53, 0x53] ∧
      straddlingCases.upper.isAscii = true ∧
      straddlingCases.upper.upper.content = [0x53, 0x53, 0x53] ∧
      malformedCases.WellFormed ∧
      malformedCases.lower.content = [0xCE, 0xB1, 0xCF, 0x82, 0xEF, 0xBF, 0xBD] ∧
      malformedCases.lower.lower.content = [0xCE, 0xB1, 0xCF, 0x82, 0xEF, 0xBF, 0xBD] := by
  have wellFormed : straddlingCases.WellFormed := ⟨by simp, by decide, by simp⟩
  have ⟨⟨mapped, again⟩, _⟩ := case_mapping_settles wellFormed
  have ⟨_, lowerMapped, lowerAgain⟩ :=
    case_mapping_settles (s := malformedCases) (ofBytes_wellFormed _)
  have content : straddlingCases.upper.content = [0x53, 0x53, 0x53] := by
    rw [mapped]
    decide +kernel
  have lowerContent :
      malformedCases.lower.content = [0xCE, 0xB1, 0xCF, 0x82, 0xEF, 0xBF, 0xBD] := by
    rw [lowerMapped]
    decide +kernel
  refine ⟨wellFormed, by decide, content, ?_, again.trans content, ofBytes_wellFormed _,
    lowerContent, lowerAgain.trans lowerContent⟩
  rw [isAscii, bytes_eq, content]
  rfl

end RowString

end RowText
