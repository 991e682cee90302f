import RowText.Proofs.Replacement
import RowText.Proofs.Session.Commands

namespace RowText

theorem Session.run_decode (sequence : SequenceSource) (offset length : Nat) (session : Session) :
    (run (.string (.decode sequence offset length))).run.run session =
      match session.segmentsOf sequence with
      | .error failure => (.error failure, session)
      | .ok segments =>
        let span : Span := ⟨segments, offset, length⟩
        match span.check with
        | .ok () => (.ok (.text (Utf8.decodeText span.content)), session)
        | .error fault => (.error (.abandoned fault), session) := by
  rw [run, runString, run_bind, run_resolveSequence, segmentsOf]
  cases session.sequenceOf sequence with
  | error failure => rfl
  | ok sequence =>
      dsimp only [Except.map]
      rw [Span.bytes_eq]
      cases (Span.check ⟨sequence.segments, offset, length⟩) <;> rfl

structure ReadAs (bytes : List UInt8) (text : List Char) : Prop where
  asText : ∀ s : RowString, s.WellFormed → s.content = bytes → s.asText = String.ofList text
  decode : ∀ (session : Session) (sequence : SequenceSource) (span : Span),
    session.segmentsOf sequence = .ok span.segments → span.check = .ok () → span.content = bytes →
      ((Session.run (.string (.decode sequence span.offset span.length))).run.run session).1 =
        .ok (.text (String.ofList text))

theorem readAs_decode (bytes : List UInt8) : ReadAs bytes (Utf8.decode bytes) where
  asText := by
    rintro s wellFormed rfl
    exact RowString.asText_eq wellFormed
  decode := by
    rintro session sequence span resolved fits rfl
    rw [Session.run_decode, resolved]
    dsimp only
    rw [fits]
    rfl

/-- Code points are read as they are, in front of any bytes and behind them. A byte that starts no
character and the part of one that is cut short are each read as one replacement. What is read is
read again as it is, and restores valid bytes only. -/
theorem lossy_decoding (bytes : List UInt8) :
    ReadAs bytes (Utf8.decode bytes) ∧
      (∀ cs, ReadAs (Utf8.encode cs) cs) ∧
      (∀ cs, ReadAs (Utf8.encode cs ++ bytes) (cs ++ Utf8.decode bytes)) ∧
      (∀ cs, ReadAs (bytes ++ Utf8.encode cs) (Utf8.decode bytes ++ cs)) ∧
      (∀ lead : UInt8, 0x80 ≤ lead ∧ lead ≤ 0xC1 ∨ 0xF5 ≤ lead →
        ReadAs (lead :: bytes) (Utf8.replacement :: Utf8.decode bytes)) ∧
      (∀ part, Utf8.CutShort part bytes →
        ReadAs (part ++ bytes) (Utf8.replacement :: Utf8.decode bytes)) ∧
      ReadAs (Utf8.encode (Utf8.decode bytes)) (Utf8.decode bytes) ∧
      (Utf8.encode (Utf8.decode bytes) = bytes ↔ Utf8.Valid bytes) := by
  have asIs (cs : List Char) : ReadAs (Utf8.encode cs) cs := by
    have read := readAs_decode (Utf8.encode cs)
    rwa [Utf8.decode_encode] at read
  refine ⟨readAs_decode bytes, asIs, ?_, ?_, ?_, ?_, asIs _, Utf8.encode_decode_eq_iff bytes⟩
  · intro cs
    have read := readAs_decode (Utf8.encode cs ++ bytes)
    rwa [Utf8.decode, Utf8.decodeFrom_encode_append] at read
  · intro cs
    have read := readAs_decode (bytes ++ Utf8.encode cs)
    rwa [Utf8.decode_append_encode] at read
  · intro lead malformed
    have read := readAs_decode (lead :: bytes)
    rwa [Utf8.decode_malformed malformed] at read
  · intro part cut
    have read := readAs_decode (part ++ bytes)
    rwa [Utf8.decode_cutShort cut] at read

def cutShortChar : RowString := .view ⟨[⟨[0x61, 0xE4]⟩, ⟨[0xB8]⟩, ⟨[0x62]⟩], 1, 3⟩ none

theorem lossy_decoding_cutShort :
    Utf8.CutShort [0xE4, 0xB8] [0x62] ∧ cutShortChar.WellFormed ∧
      cutShortChar.asText = "\uFFFDb" := by
  have cut : Utf8.CutShort [0xE4, 0xB8] [0x62] := by
    refine ⟨nofun, ⟨'中', by decide, by decide⟩, ?_⟩
    rintro byte ⟨⟩ c ⟨behind, whole⟩
    obtain ⟨lead, tail, shape, -, -, continued⟩ := Utf8.encodeChar_frame c
    have rest : tail = [0xB8, 0x62] ++ behind := (List.cons.inj (shape.symm.trans whole.symm)).2
    exact absurd (continued 0x62 (by simp [rest])) (by unfold Utf8.Continues; decide)
  have fine : cutShortChar.WellFormed := ⟨by simp, by decide, by simp⟩
  obtain ⟨-, -, -, -, -, replaced, -⟩ := lossy_decoding [0x62]
  exact ⟨cut, fine, (replaced _ cut).asText cutShortChar fine rfl⟩

end RowText
