import RowText.Proofs.Boundary
import RowText.Proofs.CaseMap
import RowText.Proofs.Join
import RowText.Proofs.WellFormed

/-!
# No operation cuts a character

Strings derived from encoded texts are encoded texts again, and each replacement character in them
was in a text they were derived from (`derived_valid`). Parts end where code points do, joins put
whole encodings next to each other, and case mappings yield ASCII or an encoded text.
-/

namespace RowText

namespace RowString

/-- The strings that operations make of given ones. The characters to trim and the key to look up
may be any strings; a separator between tokens is an encoded text. -/
inductive Derived (given : RowString → Prop) : RowString → Prop
  | given {s : RowString} (start : given s) : Derived given s
  | substring {s : RowString} (source : Derived given s) (start stop : Nat) :
      Derived given (s.substring start stop)
  | substringSql {s part : RowString} (source : Derived given s) {position : Int}
      {length : Option Int} (done : s.substringSql position length = .ok (some part)) :
      Derived given part
  | trimBlank {s : RowString} (source : Derived given s) (leading trailing : Bool) :
      Derived given (s.trimBlank leading trailing)
  | trimWith {s : RowString} (source : Derived given s) (leading trailing : Bool)
      (set : RowString) : Derived given (s.trimWith leading trailing set)
  | reverse {s : RowString} (source : Derived given s) : Derived given s.reverse
  | upper {s : RowString} (source : Derived given s) : Derived given s.upper
  | lower {s : RowString} (source : Derived given s) : Derived given s.lower
  | concat {parts : List (Option RowString)} {joined : RowString}
      (sources : ∀ part, some part ∈ parts → Derived given part)
      (done : concat parts = some joined) : Derived given joined
  | concatWith {separator joined : RowString} {parts : List (Option RowString)}
      (between : Derived given separator) (sources : ∀ part, some part ∈ parts → Derived given part)
      (done : concatWith (some separator) parts = some joined) : Derived given joined
  | split {s token : RowString} (source : Derived given s) {separator : Option RowString}
      (encoded : ∀ needle ∈ separator, Utf8.Valid needle.content)
      (member : token ∈ s.split separator) : Derived given token
  | keyValue {s value : RowString} (source : Derived given s) {entryEnd keyEnd : UInt8}
      (entryAscii : entryEnd < 0x80) (keyAscii : keyEnd < 0x80) {key : Option RowString}
      (found : s.keyValue entryEnd keyEnd key = some value) : Derived given value

structure Intact (given : RowString → Prop) (s : RowString) : Prop where
  wellFormed : s.WellFormed
  restored : Utf8.encode (Utf8.decode s.content) = s.content
  origin : Utf8.replacement ∈ Utf8.decode s.content →
    ∃ source, given source ∧ Utf8.replacement ∈ Utf8.decode source.content

variable {given : RowString → Prop} {s part : RowString}

theorem intact_of_encode {cs : List Char} (wellFormed : s.WellFormed)
    (encoded : s.content = Utf8.encode cs)
    (origin : Utf8.replacement ∈ cs →
      ∃ source, given source ∧ Utf8.replacement ∈ Utf8.decode source.content) :
    Intact given s := by
  have decoded : Utf8.decode s.content = cs := by rw [encoded, Utf8.decode_encode]
  exact ⟨wellFormed, by rw [decoded, encoded], by rwa [decoded]⟩

theorem CutAt.intact {places : List UInt8 → Nat → Prop} (intact : Intact given s)
    (cut : CutAt (places s.content) s part)
    (boundaries : ∀ cs place, places (Utf8.encode cs) place → Utf8.Boundary cs place) :
    Intact given part := by
  have boundary (place : Nat) (cuts : places s.content place) :
      Utf8.Boundary (Utf8.decode s.content) place :=
    boundaries _ place (by rwa [intact.restored])
  have within (place : Nat) (cuts : places s.content place) : place ≤ s.content.length := by
    have bound := (boundary place cuts).le
    rwa [intact.restored] at bound
  have wellFormed := cut.wellFormed intact.wellFormed within
  obtain ⟨start, stop, ordered, first, last, rfl⟩ := cut
  obtain ⟨ds, inside, sliced⟩ := (boundary start first).slice (boundary stop last) ordered
  rw [intact.restored] at sliced
  refine intact_of_encode wellFormed ?_ fun replaced => intact.origin (inside.subset replaced)
  rw [sliceBytes_content intact.wellFormed (within stop last), sliced]

theorem mapCase_intact (intact : Intact given s) {byteMap : UInt8 → UInt8}
    {textMap : List Char → List Char} (ascii : ∀ byte, byte < 0x80 → byteMap byte < 0x80)
    (unreplaced : ∀ cs, Utf8.replacement ∈ textMap cs → Utf8.replacement ∈ cs) :
    Intact given (s.mapCase byteMap textMap) := by
  have wellFormed := mapCase_wellFormed byteMap textMap s
  rw [mapCase_eq] at wellFormed ⊢
  split
  next allAscii =>
    rw [if_pos allAscii] at wellFormed
    have mapped : ∀ byte ∈ s.bytes.map byteMap, byte < 0x80 := by
      intro byte member
      obtain ⟨source, inside, rfl⟩ := List.mem_map.mp member
      exact ascii source (by simpa [isAsciiByte] using List.all_eq_true.mp allAscii source inside)
    have restored := Utf8.encode_decode_of_ascii mapped
    refine intact_of_encode wellFormed restored.symm fun replaced => ?_
    -- The replacement character would leave a byte outside of ASCII.
    obtain ⟨byte, inside, wide⟩ := Utf8.encodeChar_wide (by decide : 0x80 ≤ Utf8.replacement.toNat)
    have member : byte ∈ Utf8.encode (Utf8.decode (s.bytes.map byteMap)) :=
      List.mem_flatMap.mpr ⟨_, replaced, inside⟩
    rw [restored] at member
    exact absurd (mapped byte member) (UInt8.not_lt.mpr wide)
  next notAscii =>
    rw [if_neg notAscii] at wellFormed
    have encoded : (ofText (String.ofList (textMap s.asText.toList))).content =
        Utf8.encode (textMap s.asText.toList) := by
      rw [content_ofText, Utf8.encodeText, String.toList_ofList]
    refine intact_of_encode wellFormed encoded fun replaced => intact.origin ?_
    have source := unreplaced _ replaced
    rwa [asText_eq intact.wellFormed, Utf8.decodeText, String.toList_ofList] at source

theorem upperByte_ascii {byte : UInt8} (ascii : byte < 0x80) : upperByte byte < 0x80 := by
  unfold upperByte
  grind

theorem lowerByte_ascii {byte : UInt8} (ascii : byte < 0x80) : lowerByte byte < 0x80 := by
  unfold lowerByte
  grind

theorem intercalate_encode (separator : List Char) (parts : List (List Char)) :
    (Utf8.encode separator).intercalate (parts.map Utf8.encode) =
      Utf8.encode (separator.intercalate parts) := by
  cases parts with
  | nil => rfl
  | cons first rest =>
      rw [List.map_cons, intercalate_cons, intercalate_cons, Utf8.encode_append]
      congr 1
      induction rest with
      | nil => rfl
      | cons next rest ih =>
          rw [List.map_cons, List.flatMap_cons, List.flatMap_cons, ih, Utf8.encode_append,
            Utf8.encode_append]

theorem mem_intercalate {c : Char} {separator : List Char} {parts : List (List Char)}
    (member : c ∈ separator.intercalate parts) : c ∈ separator ∨ ∃ part ∈ parts, c ∈ part := by
  cases parts with
  | nil => cases member
  | cons first rest =>
      rw [intercalate_cons, List.mem_append, List.mem_flatMap] at member
      rcases member with inFirst | ⟨part, inRest, member⟩
      · exact Or.inr ⟨first, List.mem_cons_self, inFirst⟩
      · exact (List.mem_append.mp member).imp_right fun inPart =>
          ⟨part, List.mem_cons_of_mem first inRest, inPart⟩

theorem join_intact {separator : Option RowString} {parts : List RowString}
    (between : ∀ x ∈ separator, Intact given x) (sources : ∀ x ∈ parts, Intact given x) :
    Intact given (join separator parts) := by
  have separated : (separator.map content).getD [] =
      Utf8.encode ((separator.map (Utf8.decode ∘ content)).getD []) := by
    cases separator with
    | none => rfl
    | some x => exact (between x rfl).restored.symm
  have spelled : parts.map content = (parts.map (Utf8.decode ∘ content)).map Utf8.encode := by
    rw [List.map_map]
    exact List.map_congr_left fun x member => (sources x member).restored.symm
  have encoded := join_content separator parts
  rw [separated, spelled, intercalate_encode] at encoded
  refine intact_of_encode (join_wellFormed separator parts) encoded fun replaced => ?_
  rcases mem_intercalate replaced with inSeparator | ⟨part, member, inPart⟩
  · cases separator with
    | none => cases inSeparator
    | some x => exact (between x rfl).origin inSeparator
  · obtain ⟨x, inParts, rfl⟩ := List.mem_map.mp member
    exact (sources x inParts).origin inPart

theorem some_mem_of_allPresent {α : Type} {values : List (Option α)} {present : List α}
    (all : allPresent values = some present) {value : α} (member : value ∈ present) :
    some value ∈ values := by
  induction values generalizing present with
  | nil =>
      cases all
      cases member
  | cons first rest ih =>
      cases first with
      | none => cases all
      | some first =>
          obtain ⟨later, others, rfl⟩ := Option.map_eq_some_iff.mp all
          rcases List.mem_cons.mp member with rfl | member
          · exact List.mem_cons_self
          · exact List.mem_cons_of_mem _ (ih others member)

theorem isBlankByte_ascii {byte : UInt8} (blank : isBlankByte byte = true) : byte < 0x80 := by
  unfold isBlankByte at blank
  grind

theorem derived_intact (fine : ∀ s, given s → s.WellFormed ∧ Utf8.Valid s.content)
    (derived : Derived given s) : Intact given s := by
  -- Parts are cut at ends of code points, and every other string is made of whole encodings.
  induction derived with
  | @given s start =>
      obtain ⟨wellFormed, cs, encoded⟩ := fine s start
      refine intact_of_encode wellFormed encoded.symm fun replaced => ⟨s, start, ?_⟩
      rwa [← encoded, Utf8.decode_encode]
  | substring source start stop ih =>
      exact (substring_cut _ start stop).intact ih fun _ _ => BetweenChars.boundary
  | substringSql source done ih =>
      exact (substringSql_cut done).intact ih fun _ _ => BetweenChars.boundary
  | trimBlank source leading trailing ih =>
      exact (trimBlank_cut _ leading trailing).intact ih fun _ _ =>
        NextTo.boundary fun _ => isBlankByte_ascii
  | trimWith source leading trailing set ih =>
      exact (trimWith_cut _ leading trailing set).intact ih fun _ _ => BetweenChars.boundary
  | reverse source ih =>
      refine intact_of_encode (reverse_wellFormed _)
        (reverse_encode ih.wellFormed ih.restored.symm) fun replaced => ih.origin ?_
      exact List.mem_reverse.mp replaced
  | upper source ih =>
      exact mapCase_intact ih (fun _ => upperByte_ascii) fun _ => Unicode.replacement_mem_upper
  | lower source ih =>
      exact mapCase_intact ih (fun _ => lowerByte_ascii) fun _ => Unicode.replacement_mem_lower
  | concat sources done ih =>
      obtain ⟨present, all, rfl⟩ := Option.map_eq_some_iff.mp done
      exact join_intact nofun fun x member => ih x (some_mem_of_allPresent all member)
  | concatWith between sources done betweenIntact ih =>
      cases done
      refine join_intact ?_ fun x member => ih x ?_
      · rintro x ⟨⟩
        exact betweenIntact
      · simpa using member
  | split source encoded member ih =>
      refine (split_cut member).intact ih fun _ _ => BetweenTokens.boundary fun needle found => ?_
      obtain ⟨x, inSeparator, rfl⟩ := Option.map_eq_some_iff.mp found
      exact encoded x inSeparator
  | keyValue source entryAscii keyAscii found ih =>
      refine (keyValue_cut found).intact ih fun _ _ => NextTo.boundary fun byte delimits => ?_
      rcases Bool.or_eq_true_iff.mp delimits with entry | key
      · rwa [beq_iff_eq.mp entry]
      · rwa [beq_iff_eq.mp key]

/-- However strings are derived from encoded texts, the result is an encoded text: decoding it loses
nothing and yields a replacement character only if a given text has one. -/
theorem derived_valid (fine : ∀ s, given s → s.WellFormed ∧ Utf8.Valid s.content)
    (derived : Derived given s) :
    Utf8.Valid s.content ∧ Utf8.encodeText s.asText = s.content ∧
      (Utf8.replacement ∈ s.asText.toList →
        ∃ source, given source ∧ Utf8.replacement ∈ source.asText.toList) := by
  have intact := derived_intact fine derived
  have text {x : RowString} (wellFormed : x.WellFormed) :
      x.asText.toList = Utf8.decode x.content := by
    rw [asText_eq wellFormed, Utf8.decodeText, String.toList_ofList]
  refine ⟨⟨_, intact.restored⟩, ?_, ?_⟩
  · rw [Utf8.encodeText, text intact.wellFormed, intact.restored]
  · rw [text intact.wellFormed]
    intro replaced
    obtain ⟨source, start, member⟩ := intact.origin replaced
    exact ⟨source, start, by rwa [text (fine source start).1]⟩

theorem derived_valid_straddlingChar :
    (∀ s, s = straddlingChar → s.WellFormed ∧ Utf8.Valid s.content) ∧
      Derived (· = straddlingChar) (straddlingChar.reverse.substring 0 2).upper ∧
      Utf8.Valid (straddlingChar.reverse.substring 0 2).upper.content ∧
      Utf8.replacement ∉ (straddlingChar.reverse.substring 0 2).upper.asText.toList := by
  have fine : ∀ s, s = straddlingChar → s.WellFormed ∧ Utf8.Valid s.content := by
    rintro s rfl
    exact ⟨straddlingChar_wellFormed, _, straddlingChar_content.symm⟩
  have start : Derived (· = straddlingChar) straddlingChar := .given rfl
  have derived := ((start.reverse).substring 0 2).upper
  obtain ⟨valid, -, origin⟩ := derived_valid fine derived
  refine ⟨fine, derived, valid, fun replaced => ?_⟩
  obtain ⟨source, rfl, member⟩ := origin replaced
  rw [asText_eq straddlingChar_wellFormed, Utf8.decodeText, String.toList_ofList] at member
  exact absurd member (by decide)

end RowString

end RowText
