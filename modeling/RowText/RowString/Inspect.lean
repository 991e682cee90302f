import RowText.RowString.Basic
import RowText.Unicode.Quoted

namespace RowText.RowString

def form : RowString → String
  | owned _ _ => "Owned"
  | view _ _ => "View"
  | text _ _ => "Text"

structure Summary where
  content : List UInt8
  form : String
  decoded : Bool
  offset : Nat
  segmentSizes : List Nat
deriving DecidableEq

def summary (s : RowString) : Summary where
  content := s.bytes
  form := s.form
  decoded := s.isDecoded
  offset := s.span.offset
  segmentSizes := s.span.segments.map Segment.size

def inspectionText (form value : String) : String :=
  s!"BinaryString \x7b form: {Unicode.quote form}, value: {Unicode.quote value} \x7d"

def Reading.inspection : Reading String := do
  let form := (← get).form
  return inspectionText form (Utf8.decodeText (← Reading.bytes))

def inspection (s : RowString) : String := Reading.inspection.value s

theorem inspection_eq (s : RowString) :
    s.inspection = inspectionText s.form (Utf8.decodeText s.bytes) := rfl

end RowText.RowString
