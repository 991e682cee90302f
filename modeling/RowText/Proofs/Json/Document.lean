import RowText.Json.Document
import RowText.Proofs.IntWidth
import RowText.Proofs.Order
import RowText.Proofs.Replacement
import RowText.Proofs.Json.Value

namespace RowText

namespace Json

def recordText (first a second b : List Char) : List Char :=
  '\x7b' :: (writeText first ++ ':' :: (a ++ ',' :: (writeText second ++ ':' :: b)) ++ ['\x7d'])

theorem spells_record (first second : List Char) {a b : List Char} {x y : Json} (left : Spells a x)
    (right : Spells b y) :
    Spells (recordText first a second b) (object [(some first, x), (some second, y)]) :=
  spells_object (.next first left (.last second right))

theorem fields?_record {first second : String} (distinct : first ≠ second) (x y : Json) :
    (object [(some first.toList, x), (some second.toList, y)]).fields? first second =
      some (x, y) := by
  have others : second.toList ≠ first.toList := by
    intro same
    exact distinct (String.toList_inj.mp same.symm)
  simp [fields?, member?, valuesOf, others, others.symm]

@[simp] theorem byte?_toNat (byte : UInt8) : (number false byte.toNat true).byte? = some byte := by
  rw [byte?, if_pos byte.toNat_lt, UInt8.ofNat_toNat]

end Json

namespace DecimalType

def toJson (t : DecimalType) : Json :=
  .object [(some "precision".toList, .number false t.precision.toNat true),
    (some "scale".toList, .number false t.scale.toNat true)]

theorem toList_write (t : DecimalType) :
    t.write.toList = Json.recordText "precision".toList (Nat.toDigits 10 t.precision.toNat)
      "scale".toList (Nat.toDigits 10 t.scale.toNat) := by
  have opening : (toString "\x7b\"precision\":").toList =
      '\x7b' :: (Json.writeText "precision".toList ++ [':']) := by decide
  have middle : (toString ",\"scale\":").toList =
      ',' :: (Json.writeText "scale".toList ++ [':']) := by decide
  have closing : (toString "\x7d").toList = ['\x7d'] := by decide
  unfold write
  simp only [Json.recordText, String.toList_append, opening, middle, closing,
    Json.toList_toString_nat, List.append_assoc, List.cons_append, List.nil_append]

theorem spells_write (t : DecimalType) : Json.Spells t.write.toList t.toJson := by
  rw [toList_write]
  exact Json.spells_record _ _ (Json.spells_natural _) (Json.spells_natural _)

@[simp] theorem ofJson?_toJson (t : DecimalType) : ofJson? t.toJson = some t := by
  rw [ofJson?, toJson, Json.fields?_record (by decide)]
  simp only [Option.bind_eq_bind, Option.bind_some, Json.byte?_toNat]
  rfl

theorem read?_write (t : DecimalType) : read? t.write = some t := by
  rw [read?, Json.read?_of_spells t.spells_write]
  exact t.ofJson?_toJson

end DecimalType

namespace Decimal

def toJson (d : Decimal) : Json :=
  .object [(some "unscaled".toList, Json.ofInteger d.unscaled),
    (some "dtype".toList, d.type.toJson)]

theorem toList_write (d : Decimal) :
    d.write.toList = Json.recordText "unscaled".toList (toString d.unscaled).toList
      "dtype".toList d.type.write.toList := by
  have opening : (toString "\x7b\"unscaled\":").toList =
      '\x7b' :: (Json.writeText "unscaled".toList ++ [':']) := by decide
  have middle : (toString ",\"dtype\":").toList =
      ',' :: (Json.writeText "dtype".toList ++ [':']) := by decide
  have closing : (toString "\x7d").toList = ['\x7d'] := by decide
  have nested : (toString d.type.write).toList = d.type.write.toList := rfl
  unfold write
  simp only [Json.recordText, String.toList_append, opening, middle, closing, nested,
    List.append_assoc, List.cons_append, List.nil_append]

theorem spells_write (d : Decimal) : Json.Spells d.write.toList d.toJson := by
  rw [toList_write]
  exact Json.spells_record _ _ (Json.spells_integer _) d.type.spells_write

@[simp] theorem ofJson?_toJson {d : Decimal} (held : IntWidth.w128.holds d.unscaled = true) :
    ofJson? d.toJson = some d := by
  rw [ofJson?, toJson, Json.fields?_record (by decide)]
  simp only [Option.bind_eq_bind, Option.bind_some, Json.integer?_ofInteger, IntWidth.fit?,
    if_pos held, DecimalType.ofJson?_toJson]
  rfl

theorem read?_write {d : Decimal} (held : IntWidth.w128.holds d.unscaled = true) :
    read? d.write = some d := by
  rw [read?, Json.read?_of_spells d.spells_write]
  exact ofJson?_toJson held

end Decimal

namespace RowString

theorem read?_write (s : RowString) : read? s.write = some (ofText s.asText) := by
  rw [read?, write_eq, String.toList_ofList, Json.read?_of_spells (Json.spells_text _)]
  simp only [Option.bind_eq_bind, Option.bind_some, Json.text?, String.ofList_toList]
  rfl

theorem ofText_asText_equals_iff {s : RowString} (wellFormed : s.WellFormed) :
    (ofText s.asText).equals s = true ↔ Utf8.Valid s.content := by
  rw [equals_iff (ofText_wellFormed _) wellFormed, content_ofText, asText_eq wellFormed,
    Utf8.encodeText, Utf8.decodeText, String.toList_ofList]
  exact Utf8.encode_decode_eq_iff s.content

end RowString

/-- What is read back of a string is its text, and what is read back of a decimal is all of it. -/
theorem documents_read_back :
    (∀ s : RowString, s.WellFormed →
      ∃ back, RowString.read? s.write = some back ∧ back = RowString.ofText s.asText ∧
        back.asText = s.asText ∧ (back.equals s = true ↔ Utf8.Valid s.content) ∧
        back.write = s.write) ∧
    ∀ d : Decimal, IntWidth.w128.holds d.unscaled = true → Decimal.read? d.write = some d := by
  refine ⟨?_, fun d held => Decimal.read?_write held⟩
  intro s wellFormed
  exact ⟨_, s.read?_write, rfl, rfl, RowString.ofText_asText_equals_iff wellFormed, rfl⟩

def quotedMalformed : RowString := .view ⟨[⟨[0x20, 0x22]⟩, ⟨[0x5C, 0x01]⟩, ⟨[0xF0]⟩], 1, 4⟩ none

theorem documents_read_back_quotedMalformed :
    quotedMalformed.WellFormed ∧
      RowString.read? quotedMalformed.write = some (.ofText "\"\\\x01\uFFFD") ∧
      IntWidth.w128.holds IntWidth.w128.least = true ∧
      Decimal.read? (Decimal.write ⟨IntWidth.w128.least, ⟨0, 255⟩⟩) =
        some ⟨IntWidth.w128.least, ⟨0, 255⟩⟩ := by
  have fine : quotedMalformed.WellFormed := ⟨by simp, by decide, by simp⟩
  have held : IntWidth.w128.holds IntWidth.w128.least = true := by decide
  obtain ⟨strings, decimals⟩ := documents_read_back
  obtain ⟨back, read, rfl, -⟩ := strings quotedMalformed fine
  exact ⟨fine, read, held, decimals _ held⟩

end RowText
