import RowText.Session.Registry
import RowText.Session.Query
import RowText.RowString.Join
import RowText.RowString.Split
import RowText.RowString.SortKey
import RowText.Segment.Preview

namespace RowText

/-- What a session holds under names. Strings and slots are named by reference: what a command decodes
or encodes stays at hand. A command that fails leaves the session as the failing call left it. -/
structure Session where
  strings : Registry RowString
  slots : Registry Slot
  segments : Registry Segment
  sequences : Registry Sequence
  buffers : Registry Buffer
  log : List Event
  identities : Nat

namespace Session

def new : Session := ⟨.empty, .empty, .empty, .empty, .empty, [], 0⟩

abbrev Action := ExceptT Failure (StateM Session)

def report (events : List Event) : Action Unit :=
  modify fun session => { session with log := session.log ++ events }

def checked {α : Type} : Checked α → Action α
  | .ok value => return value
  | .error fault => throw (.abandoned fault)

def lookup {α : Type} (registry : Session → Registry α) (name : String) : Action α := do
  match (registry (← get)).get? name with
  | some value => return value
  | none => throw (.unknownName name)

def resolveSegment : SegmentSource → Action Segment
  | .named name => lookup Session.segments name
  | .bytes data => return ⟨data⟩

def resolveSequence : SequenceSource → Action Sequence
  | .named name => lookup Session.sequences name
  | .segments sources => return ⟨← sources.mapM resolveSegment, none⟩

def makeView (span : Span) : Action RowString := do
  let s ← checked (RowString.ofSpan span)
  report (Event.ofView span)
  return s

def resolveString : StringSource → Action RowString
  | .named name => lookup Session.strings name
  | .slot name => return (← lookup Session.slots name).current
  | .text value => return .ofText value
  | .bytes data => return .ofBytes data
  | .segment source => return .ofSegment (← resolveSegment source)
  | .view sequence offset length => do
    makeView ⟨(← resolveSequence sequence).segments, offset, length⟩
  | .layout (.twoSegments pad) value => do
    makeView (← checked (Layout.splitSpan (Utf8.encodeText value) pad))
  | .layout layout value => checked (layout.build value)
  | .split data pad => do makeView (← checked (Layout.splitSpan data pad))
  | .blank length => checked (RowString.blank length)
  | .empty => return .empty

def resolveOptional : Option StringSource → Action (Option RowString)
  | some source => return some (← resolveString source)
  | none => return none

def touch (source : StringSource) (change : RowString → RowString) : Action Unit :=
  modify fun session =>
    match source with
    | .named name => { session with strings := session.strings.modify name change }
    | .slot name =>
      { session with
        slots := session.slots.modify name fun slot =>
          { slot with current := change slot.current } }
    | _ => session

def runQuery (source : StringSource) (query : Query) : Action Answer := do
  let s ← resolveString source
  report (query.events s)
  touch source fun s => query.after s
  match query.answer s with
  | .ok answer => return answer
  | .error failure => throw failure

def cut (source : StringSource) (s : RowString) (cutting : RowString.Cutting) :
    Action (List RowString) := do
  touch source cutting.call.after
  checked (cutting.call.outcome s)

def writeKey (source : StringSource) (s : RowString) (b : Buffer) (offset width : Nat) :
    Action Written := do
  touch source (b.writeKey offset width).after
  return b.putKey s offset width

def runString : StringCommand → Action Answer
  | .query source query => runQuery source query
  | .trimWith source setSource leading trailing => do
    let s ← resolveString source
    let set ← resolveString setSource
    return answerOption .string (← cut source s (.trimWith leading trailing set)).head?
  | .find source needleSource => do
    let s ← resolveString source
    let needle ← resolveString needleSource
    return .occurrence (s.contains needle) (s.startsWith needle) (s.endsWith needle)
  | .indexOf source needleSource start => do
    let s ← resolveString source
    let needle ← resolveString needleSource
    return answerOption .number (s.indexOf needle start)
  | .compare aSource bSource => do
    let a ← resolveString aSource
    let b ← resolveString bSource
    if a.comparesBySpan b then
      touch aSource RowString.encoded
      touch bSource RowString.encoded
    return .comparison (a.compareTo b) (a.equals b) (a.hashFeed == b.hashFeed)
  | .sort items => do
    let items ← items.mapM resolveOptional
    return .byteLists ((RowString.sort (items.filterMap id)).map RowString.bytes)
  | .concat parts => do
    return answerOption .string (RowString.concat (← parts.mapM resolveOptional))
  | .concatWith separator parts => do
    let separator ← resolveOptional separator
    return answerOption .string (RowString.concatWith separator (← parts.mapM resolveOptional))
  | .split source separator => do
    let s ← resolveString source
    return .strings (← cut source s (.split (← resolveOptional separator)))
  | .keyValue source key entryEnd keyEnd => do
    let s ← resolveString source
    let key ← resolveOptional key
    return answerOption .string (← cut source s (.keyValue entryEnd keyEnd key)).head?
  | .key capacity fill source offset width => do
    let target : Buffer := ⟨← checked (allocate capacity fill)⟩
    let written ← writeKey source (← resolveString source) target offset width
    checked written.outcome
    return .bytes written.buffer.bytes
  | .pack values => return .strings (← checked (Layout.pack values))
  | .read document =>
    match RowString.read? document with
    | some s => return .string s
    | none => throw .unreadable
  | .decode sequence offset length => do
    let span : Span := ⟨(← resolveSequence sequence).segments, offset, length⟩
    checked span.check
    return .text (Utf8.decodeText span.bytes)
  | .sequence sequence => return .sizes ((← resolveSequence sequence).segments.map Segment.size)

def setSlot (name : String) (slot : Slot) : Action Unit :=
  modify fun session => { session with slots := session.slots.set name slot }

def runSlot (name : String) : SlotCommand → Action Answer
  | .new => do
    setSlot name Slot.new
    return .absent
  | .reset sequence offset length => do
    let slot ← lookup Session.slots name
    let sequence ← resolveSequence sequence
    report (Event.ofReset slot sequence)
    let (outcome, slot) := slot.reset sequence offset length
    setSlot name slot
    checked outcome
    return .string slot.current
  | .get => return .string (← lookup Session.slots name).current
  | .take => do
    let (s, slot) := (← lookup Session.slots name).take
    setSlot name slot
    return .string s

def setBuffer (name : String) (b : Buffer) : Action Unit :=
  modify fun session => { session with buffers := session.buffers.set name b }

def writeBuffer (name : String) (write : Buffer → Action Written) : Action Answer := do
  let written ← write (← lookup Session.buffers name)
  setBuffer name written.buffer
  checked written.outcome
  return .bufferContents written.buffer

def runBuffer (name : String) : BufferCommand → Action Answer
  | .new capacity => do
    let b ← checked (Buffer.zeroed capacity)
    setBuffer name b
    return .bufferContents b
  | .put offset data => writeBuffer name fun b => return b.put offset data
  | .putByte index value => writeBuffer name fun b => return b.putByte index value
  | .fill offset length value => writeBuffer name fun b => return b.fill offset length value
  | .putKey source offset width => do
    let s ← resolveString source
    writeBuffer name fun b => writeKey source s b offset width
  | .contents => return .bufferContents (← lookup Session.buffers name)
  | .preview => return .text (← lookup Session.buffers name).preview
  | .get index => do
    return .number (← checked ((← lookup Session.buffers name).get index)).toNat
  | .compareBuffer other offset otherOffset length => do
    let b ← lookup Session.buffers name
    let other ← lookup Session.buffers other
    return .order (← checked (b.compareTo other.bytes offset otherOffset length))
  | .compareSegment other offset otherOffset length => do
    let b ← lookup Session.buffers name
    let other ← resolveSegment other
    return .order (← checked (b.compareTo other.bytes offset otherOffset length))
  | .freeze => do
    let b ← lookup Session.buffers name
    modify fun session => { session with buffers := session.buffers.erase name }
    return .segment b.freeze

def runSegment (source : SegmentSource) (command : SegmentCommand) : Action Answer := do
  let s ← resolveSegment source
  match command with
  | .new => return .segment s
  | .contents => return .segmentContents s
  | .preview => return .text s.preview
  | .get index => return .number (← checked (s.get index)).toNat
  | .getInto offset target => return .bytes (← checked (s.getInto offset target))
  | .range offset length => return .bytes (← checked (s.range offset length))
  | .slice lower upper => return .segment (← checked (s.slice lower upper))
  | .compare other offset otherOffset length => do
    let other ← resolveSegment other
    let order ← checked (s.compareTo other.bytes offset otherOffset length)
    return .rangeComparison order (← checked (s.equalTo other.bytes offset otherOffset length))
  | .equals other => return .truth (s == (← resolveSegment other))

def run : Command → Action Answer
  | .string command => runString command
  | .slot name command => runSlot name command
  | .buffer name command => runBuffer name command
  | .segment source command => runSegment source command

def setNumbered (strings : Registry RowString) (name : String) (number : Nat) :
    List RowString → Registry RowString
  | [] => strings
  | s :: rest => setNumbered (strings.set s!"{name}.{number}" s) name (number + 1) rest

def keep (name : String) : Answer → Action Unit
  | .string s => modify fun session => { session with strings := session.strings.set name s }
  | .strings values =>
    modify fun session => { session with strings := setNumbered session.strings name 0 values }
  | .segment s => modify fun session => { session with segments := session.segments.set name s }
  | _ => return ()

def keepSequence (session : Session) (name : String) (sequence : Sequence) : Session :=
  let identity := sequence.identity.getD session.identities
  { session with
    sequences := session.sequences.set name ⟨sequence.segments, some identity⟩
    identities := session.identities + 1 }

def keepResult (name : String) (command : Command) (answer : Answer) : Action Unit :=
  match command with
  | .string (.sequence source) => do
    let sequence ← resolveSequence source
    modify fun session => session.keepSequence name sequence
  | _ => keep name answer

def runKept (command : Command) (name : Option String) : Action Answer := do
  let answer ← run command
  match name with
  | some name => keepResult name command answer
  | none => pure ()
  return answer

def step (session : Session) (command : Command) (name : Option String) :
    Except Failure Answer × Session :=
  (runKept command name).run.run { session with log := [] }

end Session

end RowText
