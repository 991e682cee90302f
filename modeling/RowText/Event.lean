import RowText.Slot
import RowText.Decimal.Basic

namespace RowText

inductive Event
  | viewMade (length offset segments : Nat)
  | slotMoved (segments : Nat)
  | exactParse (length : Nat) (type : DecimalType)
deriving DecidableEq

namespace Event

def level : Event → String
  | viewMade .. => "TRACE"
  | slotMoved .. => "DEBUG"
  | exactParse .. => "TRACE"

def message : Event → String
  | viewMade length offset segments =>
    s!"string view of {length} bytes at offset {offset} over {segments} segments"
  | slotMoved segments => s!"string slot moved to {segments} new segment(s)"
  | exactParse length type => s!"exact decimal parse of {length} bytes into {type.render}"

def ofView (span : Span) : List Event :=
  if 1 < span.segments.length then
    [viewMade span.length span.offset span.segments.length]
  else []

def ofReset (slot : Slot) (sequence : Sequence) : List Event :=
  if slot.views sequence then [] else [slotMoved sequence.segments.length]

def ofCast (compact : Bool) (length : Nat) (type : DecimalType) : List Event :=
  if compact then [] else [exactParse length type]

end Event

end RowText
