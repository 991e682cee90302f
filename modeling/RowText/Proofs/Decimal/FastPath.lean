import RowText.RowString.Numeric
import RowText.Proofs.Content
import RowText.Proofs.Utf8
import RowText.Proofs.Decimal.CompactPath

namespace RowText.Decimal

variable {type : DecimalType}

theorem lex?_encode_decode (bytes : List UInt8) :
    DecimalLiteral.lex? (Utf8.encode (Utf8.decode bytes)) = DecimalLiteral.lex? bytes := by
  rcases Utf8.encode_decode_cases bytes with same | ⟨⟨x, member, wide⟩, y, decoded, decodedWide⟩
  · rw [same]
  · rw [DecimalLiteral.lex?_of_wide member wide, DecimalLiteral.lex?_of_wide decoded decodedWide]

theorem cast_eq (valid : type.isValid = true) (bytes : List UInt8) :
    cast bytes type = .ok ((DecimalLiteral.lex? bytes).bind (nearest? · type)) := by
  unfold cast
  split
  next compact =>
    rw [usesCompact, DecimalType.isCompact, Bool.and_eq_true, decide_eq_true_iff,
      decide_eq_true_iff] at compact
    exact parseCompact_eq valid compact.1 compact.2
  next => exact parseBytes_eq valid bytes

theorem parse_decodeText (valid : type.isValid = true) (bytes : List UInt8) :
    parse (Utf8.decodeText bytes) type =
      .ok ((DecimalLiteral.lex? bytes).bind (nearest? · type)) := by
  have encoded : Utf8.encodeText (Utf8.decodeText bytes) = Utf8.encode (Utf8.decode bytes) := by
    rw [Utf8.encodeText, Utf8.decodeText, String.toList_ofList]
  rw [parse, encoded, parseBytes_eq valid, lex?_encode_decode]

/-- Casting bytes never faults and gives what reading their text in full width does. -/
theorem castDecimal_exact :
    ∀ type : DecimalType, type.isValid = true →
      (∀ s : RowString, s.WellFormed → ∃ result,
        s.castDecimal type = .ok result ∧ parse s.asText type = .ok result) ∧
      ∀ bytes : List UInt8, bytes.length ≤ 18 → type.precision.toNat ≤ 18 → ∃ result,
        parseCompact bytes type = .ok result ∧ parseBytes bytes type = .ok result := by
  intro type valid
  constructor
  · intro s wellFormed
    refine ⟨(DecimalLiteral.lex? s.content).bind (nearest? · type), ?_, ?_⟩
    · rw [RowString.castDecimal, RowString.bytes_eq]
      exact cast_eq valid s.content
    · rw [RowString.asText_eq wellFormed]
      exact parse_decodeText valid s.content
  · intro bytes short few
    exact ⟨_, parseCompact_eq valid few short, parseBytes_eq valid bytes⟩

theorem castDecimal_exact_straddling :
    (⟨3, 1⟩ : DecimalType).isValid = true ∧
      RowString.straddling.castDecimal ⟨3, 1⟩ = .ok (some ⟨15, ⟨3, 1⟩⟩) ∧
      parse RowString.straddling.asText ⟨3, 1⟩ = .ok (some ⟨15, ⟨3, 1⟩⟩) ∧
      parseBytes [0x39, 0x2E, 0x39, 0x35] ⟨3, 1⟩ = .ok (some ⟨100, ⟨3, 1⟩⟩) := by
  have ⟨strings, literals⟩ := castDecimal_exact ⟨3, 1⟩ (by decide)
  obtain ⟨result, cast, parsed⟩ := strings _ RowString.straddling_wellFormed
  obtain ⟨carried, compact, full⟩ := literals [0x39, 0x2E, 0x39, 0x35] (by decide) (by decide)
  have castValue : RowString.straddling.castDecimal ⟨3, 1⟩ = .ok (some ⟨15, ⟨3, 1⟩⟩) := by
    rw [RowString.castDecimal, RowString.bytes_eq, cast_eq (by decide)]
    decide
  have compactValue : parseCompact [0x39, 0x2E, 0x39, 0x35] ⟨3, 1⟩ =
      .ok (some ⟨100, ⟨3, 1⟩⟩) := by
    rw [parseCompact_eq (by decide) (by decide) (by decide)]
    decide
  refine ⟨by decide, castValue, ?_, ?_⟩
  · rw [parsed, ← cast, castValue]
  · rw [full, ← compact, compactValue]

end RowText.Decimal
