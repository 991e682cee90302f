import RowText.RowString.Chars
import RowText.RowString.Trim
import RowText.RowString.Split

namespace RowText.RowString

inductive Cutting
  | substring (start stop : Nat)
  | substringSql (position : Int) (length : Option Int)
  | trimBlank (leading trailing : Bool)
  | trimWith (leading trailing : Bool) (set : RowString)
  | split (separator : Option RowString)
  | keyValue (entryEnd keyEnd : UInt8) (key : Option RowString)

namespace Cutting

/-- For each part, the range that is cut out of the string; none for a part that is empty without
being cut. -/
def pieces (s : RowString) : Cutting → Checked (List (Option (Nat × Nat)))
  | substring start stop => .ok [s.substringRange? start stop]
  | substringSql position length =>
    if length.any (· < 0) then .ok []
    else do return [← s.windowRange? position (length.map Int.toNat)]
  | trimBlank leading trailing => .ok [some (s.blankRange leading trailing)]
  | trimWith leading trailing set => .ok [trimmedBytes? s.bytes set.bytes leading trailing]
  | split separator => .ok ((tokenRanges s.bytes (separator.map bytes)).map some)
  | keyValue entryEnd keyEnd key =>
    .ok ((key.bind (s.keyRange? entryEnd keyEnd)).toList.map some)

def call (cutting : Cutting) : Call (List RowString) := do
  let pieces ← Call.checked (cutting.pieces (← get))
  pieces.mapM Call.piece

end Cutting

end RowText.RowString
