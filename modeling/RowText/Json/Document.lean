import RowText.Json.Read
import RowText.RowString.Basic
import RowText.Decimal.Basic

namespace RowText

def RowString.Reading.write : Reading String := do
  return String.ofList (Json.writeText (← Reading.text).toList)

def RowString.write (s : RowString) : String := Reading.write.value s

theorem RowString.write_eq (s : RowString) :
    s.write = String.ofList (Json.writeText s.asText.toList) := rfl

def RowString.read? (document : String) : Option RowString := do
  let json ← Json.read? document.toList
  let text ← json.text?
  return ofText (String.ofList text)

def DecimalType.write (t : DecimalType) : String :=
  s!"\x7b\"precision\":{t.precision.toNat},\"scale\":{t.scale.toNat}\x7d"

def DecimalType.ofJson? (json : Json) : Option DecimalType := do
  let (precision, scale) ← json.fields? "precision" "scale"
  return ⟨← precision.byte?, ← scale.byte?⟩

def DecimalType.read? (document : String) : Option DecimalType := do
  ofJson? (← Json.read? document.toList)

def Decimal.write (d : Decimal) : String :=
  s!"\x7b\"unscaled\":{d.unscaled},\"dtype\":{d.type.write}\x7d"

def Decimal.ofJson? (json : Json) : Option Decimal := do
  let (unscaled, type) ← json.fields? "unscaled" "dtype"
  let unscaled ← IntWidth.w128.fit? (← unscaled.integer?)
  return ⟨unscaled, ← DecimalType.ofJson? type⟩

def Decimal.read? (document : String) : Option Decimal := do
  ofJson? (← Json.read? document.toList)

end RowText
