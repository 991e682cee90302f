import RowText.Layout
import RowText.Json.Document
import RowText.Number.Binary

namespace RowText

inductive SegmentSource
  | named (name : String)
  | bytes (data : List UInt8)

inductive SequenceSource
  | named (name : String)
  | segments (sources : List SegmentSource)

inductive StringSource
  | named (name : String)
  | slot (name : String)
  | text (value : String)
  | bytes (data : List UInt8)
  | segment (source : SegmentSource)
  | view (sequence : SequenceSource) (offset length : Nat)
  | layout (layout : Layout) (value : String)
  | split (data : List UInt8) (pad : Nat)
  | blank (length : Nat)
  | empty

inductive Query
  | inspect
  | clone
  | length
  | byteAt (index : Nat)
  | bytes
  | copyInto (target : List UInt8)
  | deepCopy
  | materialize
  | asText
  | display
  | debug
  | substring (start stop : Nat)
  | substringSql (position : Int) (length : Option Int)
  | trim (leading trailing : Bool)
  | reverse
  | upper
  | lower
  | equalsText (value : String)
  | hash
  | toInteger (width : IntWidth)
  | toBoolean
  | toFloat
  | castDecimal (precision scale : UInt8)
  | write

inductive StringCommand
  | query (s : StringSource) (query : Query)
  | trimWith (s set : StringSource) (leading trailing : Bool)
  | find (s needle : StringSource)
  | indexOf (s needle : StringSource) (start : Nat)
  | compare (a b : StringSource)
  | sort (items : List (Option StringSource))
  | concat (parts : List (Option StringSource))
  | concatWith (separator : Option StringSource) (parts : List (Option StringSource))
  | split (s : StringSource) (separator : Option StringSource)
  | keyValue (s : StringSource) (key : Option StringSource) (entryEnd keyEnd : UInt8)
  | key (capacity : Nat) (fill : UInt8) (s : StringSource) (offset width : Nat)
  | pack (values : List String)
  | read (document : String)
  | decode (sequence : SequenceSource) (offset length : Nat)
  | sequence (sequence : SequenceSource)

inductive SlotCommand
  | new
  | reset (sequence : SequenceSource) (offset length : Nat)
  | get
  | take

inductive BufferCommand
  | new (capacity : Nat)
  | put (offset : Nat) (data : List UInt8)
  | putByte (index : Nat) (value : UInt8)
  | fill (offset length : Nat) (value : UInt8)
  | putKey (s : StringSource) (offset width : Nat)
  | contents
  | preview
  | get (index : Nat)
  | compareBuffer (other : String) (offset otherOffset length : Nat)
  | compareSegment (other : SegmentSource) (offset otherOffset length : Nat)
  | freeze

inductive SegmentCommand
  | new
  | contents
  | preview
  | get (index : Nat)
  | getInto (offset : Nat) (target : List UInt8)
  | range (offset length : Nat)
  | slice (lower upper : Segment.Bound)
  | compare (other : SegmentSource) (offset otherOffset length : Nat)
  | equals (other : SegmentSource)

inductive Command
  | string (command : StringCommand)
  | slot (name : String) (command : SlotCommand)
  | buffer (name : String) (command : BufferCommand)
  | segment (source : SegmentSource) (command : SegmentCommand)

inductive Answer
  | absent
  | string (value : RowString)
  | strings (values : List RowString)
  | number (value : Nat)
  | integer (value : Int)
  | truth (value : Bool)
  | text (value : String)
  | bytes (value : List UInt8)
  | byteLists (values : List (List UInt8))
  | order (value : Ordering)
  | decimal (value : Decimal)
  | sizes (values : List Nat)
  | lengths (bytes : Nat) (isEmpty : Bool) (chars : Nat)
  | contents (bytes : List UInt8) (inPlace : Bool)
  | decoding (before : Bool) (text : String) (after : Bool)
  | occurrence (contains startsWith endsWith : Bool)
  | comparison (order : Ordering) (equal sameHash : Bool)
  | rangeComparison (order : Ordering) (equal : Bool)
  | floats (double single : Option Nat)
  | document (json : String) (decoded : Bool)
  | segment (value : Segment)
  | segmentContents (value : Segment)
  | bufferContents (value : Buffer)

inductive Failure
  | returned (error : Error)
  | abandoned (fault : Fault)
  | unreadable
  | unknownName (name : String)

end RowText
