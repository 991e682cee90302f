import RowText.Word

/-!
Errors, which a caller receives as a value, and faults, which abandon a call.

`Error.message` and `Fault.message` hold every wording of the two.
-/

namespace RowText

inductive Error
  | outOfBounds (index start stop : Nat)
  | compute (text : String)
  | invalidArgument (text : String)
  | invalidState (text : String)
  | assertionFailed (text : String)
  | context (note : String) (cause : Error)
deriving DecidableEq

namespace Error

def message : Error → String
  | outOfBounds index start stop => s!"index {index} out of bounds from {start} to {stop}"
  | compute text => text
  | invalidArgument text => text
  | invalidState text => text
  | assertionFailed text => text
  | context note cause => s!"{note}: {cause.message}"

end Error

inductive Fault
  | error (cause : Error)
  | overflow (operation : String)
  | lookup (index size : Nat)
  | promise (condition : String)
  | allocation
  | forbiddenText (text : String)
deriving DecidableEq

namespace Fault

def message : Fault → String
  | error cause => cause.message
  | overflow operation => s!"attempt to {operation} with overflow"
  | lookup index size => s!"index out of bounds: the len is {size} but the index is {index}"
  | promise condition => s!"assertion failed: {condition}"
  | allocation => "capacity overflow"
  | forbiddenText text => text

def outOfBounds (index size : Nat) : Fault :=
  error (.outOfBounds index 0 size)

end Fault

abbrev Checked (α : Type) := Except Fault α

theorem Checked.bind_eq_ok {α β : Type} {first : Checked α} {next : α → Checked β} {result : β} :
    (first >>= next) = .ok result ↔ ∃ value, first = .ok value ∧ next value = .ok result := by
  cases first with
  | error fault => exact ⟨nofun, nofun⟩
  | ok value => exact ⟨fun done => ⟨value, rfl, done⟩, fun ⟨_, rfl, done⟩ => done⟩

def IntWidth.exact (w : IntWidth) (operation : String) (value : Int) : Checked Int :=
  if w.holds value then .ok value else .error (.overflow operation)

namespace Error

def unwrap {α : Type} : Except Error α → Checked α
  | .ok value => .ok value
  | .error cause => .error (.error cause)

def expect {α : Type} (note : String) : Except Error α → Checked α
  | .ok value => .ok value
  | .error cause => .error (.error (.context note cause))

def expectSome {α : Type} (text : String) : Option α → Checked α
  | some value => .ok value
  | none => .error (.error (.assertionFailed text))

inductive TextPolicy
  | allowed
  | forbidden
deriving DecidableEq

def makeText (policy : TextPolicy) (text : String) : Checked String :=
  match policy with
  | .allowed => .ok text
  | .forbidden => .error (.forbiddenText text)

inductive TextKind
  | compute | invalidArgument | invalidState | assertionFailed
deriving DecidableEq

def ofKind : TextKind → String → Error
  | .compute => compute
  | .invalidArgument => invalidArgument
  | .invalidState => invalidState
  | .assertionFailed => assertionFailed

def withContexts (policy : TextPolicy) (cause : Error) : List String → Checked Error
  | [] => .ok cause
  | note :: rest => do withContexts policy (.context (← makeText policy note) cause) rest

inductive Seed
  | outOfBounds (index start stop : Nat)
  | text (kind : TextKind) (message : String)
deriving DecidableEq

def build (policy : TextPolicy) (seed : Seed) (contexts : List String) : Checked Error := do
  let cause ← match seed with
    | .outOfBounds index start stop => pure (outOfBounds index start stop)
    | .text kind message => do pure (ofKind kind (← makeText policy message))
  withContexts policy cause contexts

end Error

/-- Refuse a range that does not end within `capacity`; its end is computed without wrap-around. -/
def checkRange (offset length capacity : Nat) : Checked Unit :=
  match Word.add? offset length with
  | some stop =>
    if stop ≤ capacity then .ok () else .error (.outOfBounds (Word.addSat offset length) capacity)
  | none => .error (.outOfBounds (Word.addSat offset length) capacity)

end RowText
