import RowText.Proofs.Session.Commands

/-!
# What a command leaves of a session

A command leaves well-formed strings well formed and hands out well-formed strings. A string that it
does not replace is decoded if the command is a query that decodes it, and is otherwise left as it
was, but for its text, which may be encoded (`Session.sound_run`).
-/

namespace RowText

namespace RowString

def Follows (decodes : Prop) (s t : RowString) : Prop :=
  (decodes → t = s.decoded) ∧ (¬ decodes → Kept s t)

variable {s t : RowString} {decodes : Prop}

theorem Kept.follows (kept : Kept s t) (leaves : ¬ decodes) : Follows decodes s t :=
  ⟨fun done => absurd done leaves, fun _ => kept⟩

theorem follows_query (wellFormed : s.WellFormed) (query : Query) :
    Follows (query.Decodes s) s (query.after s) :=
  ⟨Query.after_of_decodes, Query.after_of_not_decodes wellFormed⟩

theorem Follows.wellFormed (follows : Follows decodes s t) (wellFormed : s.WellFormed) :
    t.WellFormed := by
  by_cases decoding : decodes
  · rw [follows.1 decoding]
    exact decoded_wellFormed wellFormed
  · exact (follows.2 decoding).wellFormed wellFormed

/-- What a step makes of a string that stays: the content and the form are the same, the text is at
hand if it was or if the step decodes the string, and a text that was at hand is the same. -/
structure Carried (decodes : Prop) (s t : RowString) : Prop where
  content : t.content = s.content
  form : t.form = s.form
  isDecoded_iff : t.isDecoded ↔ s.isDecoded ∨ decodes
  decodedText? : (decodes → s.isDecoded) → t.decodedText? = s.decodedText?

theorem Follows.carried (follows : Follows decodes s t) : Carried decodes s t := by
  by_cases decoding : decodes
  · obtain rfl := follows.1 decoding
    refine ⟨decoded_content s, decoded_form s, ?_, fun before => ?_⟩
    · exact iff_of_true (decoded_isDecoded s) (Or.inr decoding)
    · rw [decoded_of_isDecoded (before decoding)]
  · have kept := follows.2 decoding
    refine ⟨kept.content, kept.form, ?_, fun _ => kept.decodedText?⟩
    rw [isDecoded_eq, kept.decodedText?, ← isDecoded_eq, or_iff_left decoding]

end RowString

/-! ## Commands -/

namespace Command

def Decodes (command : Command) (source : StringSource) (s : RowString) : Prop :=
  ∃ query, command = .string (.query source query) ∧ query.Decodes s

theorem decodes_query_iff {source other : StringSource} {query : Query} {s : RowString} :
    (string (.query source query)).Decodes other s ↔ other = source ∧ query.Decodes s := by
  constructor
  · rintro ⟨_, ⟨⟩, decodes⟩
    exact ⟨rfl, decodes⟩
  · rintro ⟨rfl, decodes⟩
    exact ⟨query, rfl, decodes⟩

def Repoints (command : Command) (source : StringSource) : Prop :=
  ∃ name change, command = .slot name change ∧ change ≠ .get ∧ source = .slot name

end Command

namespace Session

variable {session : Session} {source : StringSource} {s : RowString}

/-- What a command left of a session: well-formed strings, a well-formed answer, and each string that
it did not replace. -/
structure Sound (command : Command) (replaces : Answer → StringSource → Prop) (before : Session)
    (outcome : Except Failure Answer × Session) : Prop where
  wellFormed : outcome.2.WellFormed
  answer : ∀ answer, outcome.1 = .ok answer → answer.WellFormed
  follows : ∀ {source s}, before.held? source = some s →
    (∀ answer, outcome.1 = .ok answer → ¬ replaces answer source) →
      ∃ t, outcome.2.held? source = some t ∧ RowString.Follows (command.Decodes source s) s t

variable {replaces : Answer → StringSource → Prop}

theorem sound_of_undisturbed {command : Command} {outcome : Except Failure Answer × Session}
    (wellFormed : session.WellFormed) (undisturbed : Undisturbed session outcome.2)
    (answer : ∀ answer, outcome.1 = .ok answer → answer.WellFormed)
    (leaves : ∀ source s, ¬ command.Decodes source s) :
    Sound command replaces session outcome := by
  refine ⟨undisturbed.wellFormed wellFormed, answer, fun {source s} held _ => ?_⟩
  obtain ⟨t, later, kept⟩ := undisturbed.held held
  exact ⟨t, later, kept.follows (leaves source s)⟩

theorem Reads.sound {command : Command} {action : Action Answer}
    (reads : Reads Answer.WellFormed action) (wellFormed : session.WellFormed)
    (leaves : ∀ source s, ¬ command.Decodes source s) :
    Sound command replaces session (action.run.run session) :=
  sound_of_undisturbed wellFormed (reads session wellFormed).1 (reads session wellFormed).2 leaves

def logging (session : Session) (events : List Event) : Session :=
  { session with log := session.log ++ events }

theorem undisturbed_logging (session : Session) (events : List Event) :
    Undisturbed session (session.logging events) :=
  undisturbed_of_held? rfl

/-! ### Queries -/

theorem run_query (source : StringSource) (query : Query) (session : Session) :
    (runQuery source query).run.run session =
      match (resolveString source).run.run session with
      | (.ok s, middle) =>
        (query.answer s,
          (middle.logging (query.events s)).touched source query.after)
      | (.error failure, middle) => (.error failure, middle) := by
  unfold runQuery
  rw [run_bind]
  rcases (resolveString source).run.run session with ⟨failure | s, middle⟩
  · rfl
  · dsimp only
    cases query.answer s <;> rfl

theorem run_resolveString_of_held (held : session.held? source = some s) :
    (resolveString source).run.run session = (.ok s, session) := by
  cases source with
  | named name =>
      change session.strings.get? name = some s at held
      rw [resolveString, run_lookup, held]
  | slot name =>
      obtain ⟨slot, found, rfl⟩ := Option.map_eq_some_iff.mp held
      rw [resolveString, run_bind, run_lookup, found]
      rfl
  | _ => cases held

theorem sound_query (source : StringSource) (query : Query) (wellFormed : session.WellFormed) :
    Sound (.string (.query source query)) replaces session
      ((runQuery source query).run.run session) := by
  have leaves {other : StringSource} {s : RowString} (distinct : other ≠ source) :
      ¬ (Command.string (.query source query)).Decodes other s := fun decodes =>
    distinct (Command.decodes_query_iff.mp decodes).1
  obtain ⟨undisturbed, resolved⟩ := reads_resolveString source session wellFormed
  rw [run_query]
  rcases ran : (resolveString source).run.run session with ⟨failure | r, middle⟩
  all_goals rw [ran] at undisturbed resolved
  · refine ⟨undisturbed.wellFormed wellFormed, nofun, fun {other s} held _ => ?_⟩
    -- A string that is held can be resolved, so the failing query is about none of them.
    have distinct : other ≠ source := by
      rintro rfl
      rw [run_resolveString_of_held held] at ran
      cases ran
    obtain ⟨t, later, kept⟩ := undisturbed.held held
    exact ⟨t, later, kept.follows (leaves distinct)⟩
  · dsimp only
    refine ⟨?_, fun answer => Query.answer_wellFormed (resolved r rfl), fun {other s} held _ => ?_⟩
    · have logged : (middle.logging (query.events r)).WellFormed :=
        undisturbed.wellFormed wellFormed
      exact touched_wellFormed logged source fun s fine =>
        (RowString.follows_query fine query).wellFormed fine
    by_cases same : other = source
    · subst same
      rw [run_resolveString_of_held held] at ran
      cases ran
      refine ⟨query.after r, ?_, ?_⟩
      · rw [held?_touched_self]
        exact congrArg (Option.map query.after) held
      · rw [RowString.Follows, Command.decodes_query_iff, and_iff_right rfl]
        exact RowString.follows_query (resolved r rfl) query
    · obtain ⟨t, later, kept⟩ := undisturbed.held held
      refine ⟨t, ?_, kept.follows (leaves same)⟩
      rw [held?_touched_other _ same]
      exact later

/-! ### Slots -/

def withSlot (session : Session) (name : String) (slot : Slot) : Session :=
  { session with slots := session.slots.set name slot }

@[simp] theorem slots_withSlot (session : Session) (name : String) (slot : Slot) :
    (session.withSlot name slot).slots = session.slots.set name slot := rfl

@[simp] theorem held?_withSlot_self (session : Session) (name : String) (slot : Slot) :
    (session.withSlot name slot).held? (.slot name) = some slot.current := by
  simp [held?]

@[simp] theorem held?_withSlot_other (session : Session) {name : String}
    (distinct : source ≠ .slot name) (slot : Slot) :
    (session.withSlot name slot).held? source = session.held? source := by
  cases source with
  | slot other =>
      have apart : other ≠ name := by simpa using distinct
      simp [held?, apart]
  | _ => rfl

theorem withSlot_wellFormed (wellFormed : session.WellFormed) {slot : Slot}
    (current : slot.current.WellFormed) (name : String) :
    (session.withSlot name slot).WellFormed := by
  intro source s held
  by_cases same : source = .slot name
  · subst same
    rw [held?_withSlot_self] at held
    cases held
    exact current
  · rw [held?_withSlot_other session same] at held
    exact wellFormed source s held

theorem run_slot_new (name : String) (session : Session) :
    (runSlot name .new).run.run session = (.ok .absent, session.withSlot name Slot.new) := rfl

theorem run_slot_reset (name : String) (sequence : SequenceSource) (offset length : Nat)
    (session : Session) :
    (runSlot name (.reset sequence offset length)).run.run session =
      match session.slots.get? name, session.sequenceOf sequence with
      | none, _ => (.error (.unknownName name), session)
      | some _, .error failure => (.error failure, session)
      | some slot, .ok sequence =>
        let span : Span := ⟨sequence.segments, offset, length⟩
        let logged := session.logging (Event.ofReset slot sequence)
        match span.check with
        | .ok () =>
          (.ok (.string (.view span none)),
            logged.withSlot name ⟨.view span none, sequence.identity⟩)
        | .error fault => (.error (.abandoned fault), logged.withSlot name slot) := by
  rw [runSlot, run_bind, run_lookup]
  cases session.slots.get? name with
  | none => rfl
  | some slot =>
      dsimp only
      rw [run_bind, run_resolveSequence]
      cases session.sequenceOf sequence with
      | error failure => rfl
      | ok sequence =>
          unfold Slot.reset
          dsimp only
          cases (Span.check ⟨sequence.segments, offset, length⟩) <;> rfl

theorem run_slot_get (name : String) (session : Session) :
    (runSlot name .get).run.run session =
      match session.slots.get? name with
      | none => (.error (.unknownName name), session)
      | some slot => (.ok (.string slot.current), session) := by
  rw [runSlot, run_bind, run_lookup]
  cases session.slots.get? name <;> rfl

theorem run_slot_take (name : String) (session : Session) :
    (runSlot name .take).run.run session =
      match session.slots.get? name with
      | none => (.error (.unknownName name), session)
      | some slot => (.ok (.string slot.current), session.withSlot name Slot.new) := by
  rw [runSlot, run_bind, run_lookup]
  cases session.slots.get? name <;> rfl

theorem slot_leaves (name : String) (change : SlotCommand) (source : StringSource)
    (s : RowString) : ¬ (Command.slot name change).Decodes source s := by
  rintro ⟨_, ⟨⟩, _⟩

theorem sound_of_repointed {name : String} {change : SlotCommand} (repoints : change ≠ .get)
    {middle : Session} (wellFormed : session.WellFormed) (undisturbed : Undisturbed session middle)
    {slot : Slot} (current : slot.current.WellFormed) {answer : Answer}
    (handed : answer.WellFormed) :
    Sound (.slot name change) (fun _ => (Command.slot name change).Repoints) session
      (.ok answer, middle.withSlot name slot) := by
  refine ⟨withSlot_wellFormed (undisturbed.wellFormed wellFormed) current name, ?_,
    fun {source s} held stays => ?_⟩
  · rintro _ ⟨⟩
    exact handed
  · have distinct : source ≠ .slot name := fun same =>
      stays answer rfl ⟨name, change, rfl, repoints, same⟩
    obtain ⟨t, later, kept⟩ := undisturbed.held held
    exact ⟨t, (held?_withSlot_other middle distinct slot).trans later,
      kept.follows (slot_leaves name change source s)⟩

theorem undisturbed_withSlot {name : String} {slot : Slot}
    (found : session.slots.get? name = some slot) :
    Undisturbed session (session.withSlot name slot) := by
  refine undisturbed_of_held? (funext fun source => ?_)
  by_cases same : source = .slot name
  · subst same
    rw [held?_withSlot_self]
    exact (held?_of_slot found).symm
  · exact held?_withSlot_other session same slot

theorem sound_slot (name : String) (change : SlotCommand) (wellFormed : session.WellFormed) :
    Sound (.slot name change) (fun _ => (Command.slot name change).Repoints) session
      ((runSlot name change).run.run session) := by
  have unchanged (failure : Failure) : Sound (.slot name change)
      (fun _ => (Command.slot name change).Repoints) session (.error failure, session) :=
    sound_of_undisturbed wellFormed (undisturbed_refl session) nofun (slot_leaves name change)
  cases change with
  | new =>
      rw [run_slot_new]
      exact sound_of_repointed (by nofun) wellFormed (undisturbed_refl session)
        RowString.empty_wellFormed (Answer.wellFormed_of_yields_nil rfl)
  | reset sequence offset length =>
      rw [run_slot_reset]
      cases found : session.slots.get? name with
      | none => exact unchanged _
      | some slot =>
          cases session.sequenceOf sequence with
          | error failure => exact unchanged failure
          | ok sequence =>
              dsimp only
              cases fits : Span.check ⟨sequence.segments, offset, length⟩ with
              | error fault =>
                  -- The slot is written back as it was found.
                  exact sound_of_undisturbed wellFormed (undisturbed_withSlot found) nofun
                    (slot_leaves _ _)
              | ok done =>
                  cases done
                  dsimp only
                  exact sound_of_repointed (by nofun) wellFormed (undisturbed_logging session _)
                    (RowString.view_wellFormed fits)
                    (Answer.string_wellFormed (RowString.view_wellFormed fits))
  | get =>
      rw [run_slot_get]
      cases found : session.slots.get? name with
      | none => exact unchanged _
      | some slot =>
          refine sound_of_undisturbed wellFormed (undisturbed_refl session) ?_ (slot_leaves _ _)
          rintro _ ⟨⟩
          exact Answer.string_wellFormed (current_wellFormed wellFormed found)
  | take =>
      rw [run_slot_take]
      cases found : session.slots.get? name with
      | none => exact unchanged _
      | some slot =>
          exact sound_of_repointed (by nofun) wellFormed (undisturbed_refl session)
            RowString.empty_wellFormed
            (Answer.string_wellFormed (current_wellFormed wellFormed found))

/-! ### All commands -/

theorem sound_run (command : Command) (wellFormed : session.WellFormed) :
    Sound command (fun _ => command.Repoints) session ((run command).run.run session) := by
  cases command with
  | string command =>
      by_cases query : ∃ source query, command = .query source query
      · obtain ⟨source, query, rfl⟩ := query
        exact sound_query source query wellFormed
      · refine (reads_runString ?_).sound wellFormed ?_
        · exact fun source asked same => query ⟨source, asked, same⟩
        · rintro source s ⟨asked, ⟨⟩, _⟩
          exact query ⟨source, asked, rfl⟩
  | slot name change => exact sound_slot name change wellFormed
  | buffer name command =>
      exact (reads_runBuffer name command).sound wellFormed (by rintro source s ⟨_, ⟨⟩, _⟩)
  | segment target command =>
      exact (reads_runSegment target command).sound wellFormed (by rintro source s ⟨_, ⟨⟩, _⟩)

end Session

end RowText
