import RowText.Session.Command
import RowText.RowString.Inspect
import RowText.RowString.Order
import RowText.RowString.Cutting
import RowText.RowString.Case
import RowText.RowString.Numeric
import RowText.Event

namespace RowText

def answerChecked : Checked Answer → Except Failure Answer
  | .ok answer => .ok answer
  | .error fault => .error (.abandoned fault)

def answerOption {α : Type} (answer : α → Answer) : Option α → Answer
  | some value => answer value
  | none => .absent

namespace Query

open RowString

abbrev Asking (α : Type) := ExceptT Failure Reading α

def given (answer : RowString → Except Failure Answer) : Asking Answer := ExceptT.mk do
  return answer (← get)

def calling {α : Type} (call : Call α) : Asking α := ExceptT.adapt Failure.abandoned call

def cut (cutting : Cutting) : Asking Answer := do
  return answerOption .string (← calling cutting.call).head?

def trimmed : Asking RowString := do
  calling (Call.piece (some ((← get).blankRange true true)))

def decimalAnswer (s : RowString) (precision scale : UInt8) : Except Failure Answer :=
  match DecimalType.create precision scale with
  | .error error => .error (.returned error)
  | .ok type => answerChecked do return answerOption .decimal (← s.castDecimal type)

def integerAnswer (s : RowString) (width : IntWidth) : Except Failure Answer :=
  match s.toInteger width with
  | .ok value => .ok (answerOption .integer value)
  | .error error => .error (.returned error)

def ask : Query → Asking Answer
  | inspect => do
    let s ← get
    let _ ← Reading.span
    return .string s
  | clone => given fun s => .ok (.string s)
  | length => given fun s => .ok (.lengths s.length s.isEmpty s.numChars)
  | byteAt index => given fun s => answerChecked do return .number (← s.byteAt index).toNat
  | bytes => given fun s => .ok (.contents s.bytes s.contiguousBytes?.isSome)
  | copyInto target => given fun s => .ok (.bytes (s.copyInto target))
  | deepCopy => given fun s => .ok (.string s.deepCopy)
  | materialize => do
    let _ ← Reading.text
    return .string (← get)
  | asText => do
    let before := (← get).isDecoded
    let text ← Reading.text
    return .decoding before text (← get).isDecoded
  | display => return .text (← Reading.text)
  | debug => return .text (← Reading.inspection)
  | substring start stop => cut (.substring start stop)
  | substringSql position limit => cut (.substringSql position limit)
  | trim leading trailing => cut (.trimBlank leading trailing)
  | reverse => given fun s => .ok (.string s.reverse)
  | upper => return .string (← Reading.upper)
  | lower => return .string (← Reading.lower)
  | equalsText value => given fun s => .ok (.truth (s.equalsText value))
  | hash => given fun s => .ok (.bytes s.hashFeed)
  | toInteger width => given fun s => integerAnswer s width
  | toBoolean => return answerOption .truth (truthOf? (← trimmed).bytes)
  | toFloat => do
    let word := (← trimmed).bytes
    return .floats (parseFloat? .double word) (parseFloat? .single word)
  | castDecimal precision scale => given fun s => decimalAnswer s precision scale
  | write => do
    let json ← Reading.write
    return .document json (← get).isDecoded

def answer (s : RowString) (query : Query) : Except Failure Answer := query.ask.run.value s

def after (s : RowString) (query : Query) : RowString := query.ask.run.after s

def events (s : RowString) : Query → List Event
  | castDecimal precision scale =>
    match DecimalType.create precision scale with
    | .ok type => Event.ofCast (Decimal.usesCompact type s.bytes.length) s.bytes.length type
    | .error _ => []
  | _ => []

end Query

end RowText
