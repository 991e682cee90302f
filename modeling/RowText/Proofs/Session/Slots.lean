import RowText.Proofs.Session.Runs

/-!
# A slot is a variable

Over a whole run a slot holds the view that it was last pointed at, or the empty string if it was
emptied since (`Session.pointed`), and its text is the text of just those bytes: what was decoded for
one row is not seen in the next, and a span that is refused changes nothing. The strings that were
taken or cloned out of it keep their content (`Session.slot_is_variable`).
-/

namespace RowText

namespace Slot

def fresh : Option Span → RowString
  | some span => .view span none
  | none => .empty

def Shows (slot : Slot) (pointed : Option Span) : Prop :=
  slot.current = fresh pointed ∨ slot.current = (fresh pointed).decoded

variable {slot next : Slot} {pointed : Option Span} {t : RowString} {decodes : Prop}

@[simp] theorem fresh_encoded (pointed : Option Span) :
    (fresh pointed).encoded = fresh pointed := by
  cases pointed <;> rfl

@[simp] theorem fresh_decoded_encoded (pointed : Option Span) :
    (fresh pointed).decoded.encoded = (fresh pointed).decoded := by
  cases pointed <;> rfl

theorem Shows.kept (shows : slot.Shows pointed) (kept : RowString.Kept slot.current t) :
    t = slot.current := by
  rcases kept with rfl | rfl
  · rfl
  · rcases shows with same | same
    · simp [same]
    · simp [same]

theorem Shows.decoded (shows : slot.Shows pointed) :
    slot.current.decoded = (fresh pointed).decoded := by
  rcases shows with same | same <;> simp [same]

theorem Shows.follows (shows : slot.Shows pointed)
    (follows : RowString.Follows decodes slot.current next.current) : next.Shows pointed := by
  by_cases decoding : decodes
  · exact Or.inr ((follows.1 decoding).trans shows.decoded)
  · rw [Shows, shows.kept (follows.2 decoding)]
    exact shows

theorem Shows.content (shows : slot.Shows pointed) :
    slot.current.content = (fresh pointed).content := by
  rcases shows with same | same <;> simp [same]

end Slot

namespace Session

variable {session : Session} {name : String} {slot : Slot} {was : Option Span}

@[simp] theorem slots_keeping (session : Session) (out : Option String) (answer : Answer) :
    (session.keeping out answer).slots = session.slots := by
  cases out with
  | none => rfl
  | some name => cases answer <;> rfl

@[simp] theorem slots_cleared (session : Session) : session.cleared.slots = session.slots := rfl

@[simp] theorem sequenceOf_cleared (session : Session) (source : SequenceSource) :
    session.cleared.sequenceOf source = session.sequenceOf source := by
  cases source <;> rfl

theorem stepped_slot (session : Session) (name : String) (change : SlotCommand)
    (out : Option String) :
    let next := session.stepped ⟨.slot name change, out⟩
    let ran := (runSlot name change).run.run session.cleared
    next.1 = ran.1 ∧ next.2.slots = ran.2.slots := by
  intro next ran
  have ordinary : ∀ sequence, Command.slot name change ≠ .string (.sequence sequence) := by nofun
  have steps := run_runKept ordinary out session.cleared
  change next = _ at steps
  rcases done : (run (.slot name change)).run.run session.cleared with ⟨failure | answer, middle⟩
  all_goals
    rw [done] at steps
    have ranTo : ran = _ := done
    rw [steps, ranTo]
  · exact ⟨rfl, rfl⟩
  · exact ⟨rfl, slots_keeping middle out answer⟩

/-- What the next call on a slot does: one that points it at a span that is accepted answers that
view, undecoded; one that is refused leaves the slot as it is, as does reading it; taking its string
leaves the slot empty. A span is refused if it has no segments, or if its end is beyond them or is no
word. -/
structure SlotCalls (session : Session) (name : String) (slot : Slot) : Prop where
  accepts_iff : ∀ {span : Span}, span.check = .ok () ↔
    span.segments ≠ [] ∧ span.offset + span.length < Word.limit ∧
      span.offset + span.length ≤ totalSize span.segments
  accepted : ∀ {source sequence offset length} out,
    session.sequenceOf source = .ok sequence →
    Span.check ⟨sequence.segments, offset, length⟩ = .ok () →
      let string : RowString := .view ⟨sequence.segments, offset, length⟩ none
      let next := session.stepped ⟨.slot name (.reset source offset length), out⟩
      next.1 = .ok (.string string) ∧
        next.2.slots.get? name = some ⟨string, sequence.identity⟩
  refused : ∀ {source sequence offset length fault} out,
    session.sequenceOf source = .ok sequence →
    Span.check ⟨sequence.segments, offset, length⟩ = .error fault →
      let next := session.stepped ⟨.slot name (.reset source offset length), out⟩
      next.1 = .error (.abandoned fault) ∧ next.2.slots.get? name = some slot
  get : ∀ out,
    let next := session.stepped ⟨.slot name .get, out⟩
    next.1 = .ok (.string slot.current) ∧ next.2.slots.get? name = some slot
  take : ∀ out,
    let next := session.stepped ⟨.slot name .take, out⟩
    next.1 = .ok (.string slot.current) ∧ next.2.slots.get? name = some Slot.new

theorem slotCalls (found : session.slots.get? name = some slot) :
    SlotCalls session name slot where
  accepts_iff := RowString.check_eq_ok_iff
  accepted := by
    intro source sequence offset length out known fits string next
    obtain ⟨answered, slots⟩ := stepped_slot session name (.reset source offset length) out
    simp only [run_slot_reset, slots_cleared, sequenceOf_cleared, found, known, fits]
      at answered slots
    exact ⟨answered, by simp [next, string, slots]⟩
  refused := by
    intro source sequence offset length fault out known fails next
    obtain ⟨answered, slots⟩ := stepped_slot session name (.reset source offset length) out
    simp only [run_slot_reset, slots_cleared, sequenceOf_cleared, found, known, fails]
      at answered slots
    exact ⟨answered, by simp [next, slots]⟩
  get := by
    intro out next
    obtain ⟨answered, slots⟩ := stepped_slot session name .get out
    simp only [run_slot_get, slots_cleared, found] at answered slots
    exact ⟨answered, slots ▸ found⟩
  take := by
    intro out next
    obtain ⟨answered, slots⟩ := stepped_slot session name .take out
    simp only [run_slot_take, slots_cleared, found] at answered slots
    exact ⟨answered, by simp [next, slots]⟩

@[simp] theorem stepped_new (session : Session) (name : String) (out : Option String) :
    (session.stepped ⟨.slot name .new, out⟩).2.slots.get? name = some Slot.new := by
  simp [(stepped_slot session name .new out).2, run_slot_new]

def pointedByCall (session : Session) (was : Option Span) : SlotCommand → Option Span
  | .new => none
  | .take => none
  | .get => was
  | .reset sequence offset length =>
    match session.segmentsOf sequence with
    | .error _ => was
    | .ok segments =>
      let span : Span := ⟨segments, offset, length⟩
      match span.check with
      | .error _ => was
      | .ok () => some span

def pointedBy (session : Session) (name : String) (was : Option Span) : Command → Option Span
  | .slot other change => if other = name then session.pointedByCall was change else was
  | _ => was

def pointed (session : Session) (name : String) (was : Option Span) : List Step → Option Span
  | [] => was
  | step :: rest =>
    (session.stepped step).2.pointed name (session.pointedBy name was step.command) rest

theorem pointedBy_of_not_repoints {command : Command}
    (leaves : ¬ command.Repoints (.slot name)) : session.pointedBy name was command = was := by
  cases command with
  | slot other change =>
      by_cases same : other = name
      · subst same
        cases change with
        | get => exact if_pos rfl
        | _ => exact absurd ⟨_, _, rfl, by nofun, rfl⟩ leaves
      · exact if_neg same
  | _ => rfl

theorem shows_repointed (change : SlotCommand) (out : Option String)
    (found : session.slots.get? name = some slot) (shows : slot.Shows was) :
    ∃ later, (session.stepped ⟨.slot name change, out⟩).2.slots.get? name = some later ∧
      later.Shows (session.pointedByCall was change) := by
  have calls := slotCalls found
  cases change with
  | new => exact ⟨Slot.new, stepped_new session name out, Or.inl rfl⟩
  | take => exact ⟨Slot.new, (calls.take out).2, Or.inl rfl⟩
  | get => exact ⟨slot, (calls.get out).2, shows⟩
  | reset sequence offset length =>
      rw [pointedByCall, segmentsOf]
      cases resolved : session.sequenceOf sequence with
      | error failure =>
          refine ⟨slot, ?_, shows⟩
          rw [(stepped_slot session name _ out).2]
          simp only [run_slot_reset, slots_cleared, sequenceOf_cleared, found, resolved]
      | ok sequence =>
          dsimp only [Except.map]
          cases fits : Span.check ⟨sequence.segments, offset, length⟩ with
          | error fault => exact ⟨slot, (calls.refused out resolved fits).2, shows⟩
          | ok done =>
              cases done
              exact ⟨_, (calls.accepted out resolved fits).2, Or.inl rfl⟩

theorem shows_step (wellFormed : session.WellFormed) (found : session.slots.get? name = some slot)
    (shows : slot.Shows was) (step : Step) :
    ∃ later, (session.stepped step).2.slots.get? name = some later ∧
      later.Shows (session.pointedBy name was step.command) := by
  obtain ⟨command, out⟩ := step
  by_cases repoints : command.Repoints (.slot name)
  · obtain ⟨_, change, rfl, -, ⟨⟩⟩ := repoints
    rw [pointedBy, if_pos rfl]
    exact shows_repointed change out found shows
  · -- What a step keeps goes to a name, never to a slot.
    have stays (answer : Answer) : ¬ Step.Replaces ⟨command, out⟩ answer (.slot name) := by
      rintro (pointing | ⟨_, _, _, _, ⟨⟩⟩)
      exact repoints pointing
    obtain ⟨t, later, follows⟩ := (sound_step ⟨command, out⟩ wellFormed).follows
      (held?_of_slot found) fun answer _ => stays answer
    obtain ⟨next, after, rfl⟩ := Option.map_eq_some_iff.mp later
    refine ⟨next, after, ?_⟩
    rw [pointedBy_of_not_repoints repoints]
    exact shows.follows follows

theorem shows_after (wellFormed : session.WellFormed)
    (found : session.slots.get? name = some slot) (shows : slot.Shows was) (steps : List Step) :
    ∃ later, (session.after steps).slots.get? name = some later ∧
      later.Shows (session.pointed name was steps) := by
  induction steps generalizing session slot was with
  | nil => exact ⟨slot, found, shows⟩
  | cons step rest ih =>
      obtain ⟨next, after, shows⟩ := shows_step wellFormed found shows step
      exact ih (sound_step step wellFormed).wellFormed after shows

def Leaves (session : Session) (source : StringSource) : List Step → Prop
  | [] => True
  | step :: rest =>
    (∀ answer, (session.stepped step).1 = .ok answer → ¬ step.Replaces answer source) ∧
      (session.stepped step).2.Leaves source rest

theorem content_after {source : StringSource} {s : RowString} (wellFormed : session.WellFormed)
    (held : session.held? source = some s) {steps : List Step}
    (leaves : session.Leaves source steps) :
    ∃ t, (session.after steps).held? source = some t ∧ t.content = s.content := by
  induction steps generalizing session s with
  | nil => exact ⟨s, held, rfl⟩
  | cons step rest ih =>
      have sound := sound_step step wellFormed
      obtain ⟨next, after, follows⟩ := sound.follows held leaves.1
      obtain ⟨t, later, content⟩ := ih sound.wellFormed after leaves.2
      exact ⟨t, later, content.trans follows.carried.content⟩

/-- However a slot is used once it was made, it holds what it was last pointed at, and its text is
the text of those bytes alone; the strings that the session holds keep their content for as long as
nothing is put in their place, whatever the slot is pointed at. -/
theorem slot_is_variable (earlier later : List Step) (name : String) (out : Option String) :
    let made := ((new.after earlier).stepped ⟨.slot name .new, out⟩).2
    let session := made.after later
    let string := Slot.fresh (made.pointed name none later)
    ∃ slot, session.slots.get? name = some slot ∧
      (slot.current = string ∨ slot.current = string.decoded) ∧
      slot.current.content = string.content ∧
      slot.current.asText = Utf8.decodeText string.content ∧
      SlotCalls session name slot ∧
      ∀ key s rest, session.held? (.named key) = some s → session.Leaves (.named key) rest →
        ∃ t, (session.after rest).held? (.named key) = some t ∧ t.content = s.content := by
  intro made session string
  have madeWellFormed : made.WellFormed :=
    (sound_step _ (wellFormed_after new_wellFormed earlier)).wellFormed
  have wellFormed : session.WellFormed := wellFormed_after madeWellFormed later
  have empty : Slot.new.Shows none := Or.inl rfl
  obtain ⟨slot, found, shows⟩ :=
    shows_after madeWellFormed (stepped_new (new.after earlier) name out) empty later
  have text := RowString.asText_eq (current_wellFormed wellFormed found)
  rw [shows.content] at text
  exact ⟨slot, found, shows, shows.content, text, slotCalls found,
    fun key s rest held leaves => content_after wellFormed held leaves⟩

def reusedSlot : List Step :=
  [⟨.slot "row" (.reset (.segments [.bytes [0x61, 0x62]]) 0 2), none⟩,
    ⟨.string (.query (.slot "row") .asText), none⟩, ⟨.slot "row" .take, some "taken"⟩,
    ⟨.slot "row" (.reset (.segments [.bytes [0x63]]) 0 1), none⟩,
    ⟨.slot "row" (.reset (.segments []) 0 0), none⟩]

theorem slot_is_variable_reusedSlot :
    let session := (new.after [⟨.slot "row" .new, none⟩]).after reusedSlot
    let later : List Step := [⟨.slot "row" (.reset (.segments [.bytes [0x64]]) 0 1), none⟩]
    (∃ slot, session.slots.get? "row" = some slot ∧ slot.current.content = [0x63]) ∧
      ∃ t, (session.after later).held? (.named "taken") = some t ∧ t.content = [0x61, 0x62] := by
  intro session later
  obtain ⟨slot, found, -, content, -, -, stays⟩ := slot_is_variable [] reusedSlot "row" none
  have held : session.held? (.named "taken") =
      some (.view ⟨[⟨[0x61, 0x62]⟩], 0, 2⟩ (some (Utf8.decodeText [0x61, 0x62]))) := rfl
  have leaves : session.Leaves (.named "taken") later := by
    refine ⟨?_, trivial⟩
    rintro answer - (⟨_, _, _, _, ⟨⟩⟩ | ⟨_, kept, _⟩)
    cases kept
  exact ⟨⟨slot, found, content⟩, stays "taken" _ later held leaves⟩

end Session

end RowText
