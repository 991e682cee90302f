import RowText.Proofs.Session.Effects

namespace RowText

def Answer.names (name : String) : Answer → List String
  | .string _ => [name]
  | .strings values => (List.range' 0 values.length).map fun number => s!"{name}.{number}"
  | _ => []

namespace Session

variable {session : Session} {source : StringSource} {s : RowString} {name : String}

theorem get?_setNumbered {values : List RowString} {key : String} {strings : Registry RowString}
    {number : Nat} (found : (setNumbered strings name number values).get? key = some s) :
    strings.get? key = some s ∨ s ∈ values := by
  induction values generalizing strings number with
  | nil => exact Or.inl found
  | cons first rest ih =>
      rcases ih found with held | member
      · rw [Registry.get?_set] at held
        split at held
        · cases held
          exact Or.inr List.mem_cons_self
        · exact Or.inl held
      · exact Or.inr (List.mem_cons_of_mem _ member)

theorem get?_setNumbered_other {values : List RowString} {key : String}
    {strings : Registry RowString} {number : Nat}
    (absent : key ∉ (List.range' number values.length).map fun number => s!"{name}.{number}") :
    (setNumbered strings name number values).get? key = strings.get? key := by
  induction values generalizing strings number with
  | nil => rfl
  | cons first rest ih =>
      rw [List.length_cons, List.range'_succ, List.map_cons, List.mem_cons, not_or] at absent
      exact (ih absent.2).trans ((Registry.get?_set ..).trans (if_neg absent.1))

def keeping (session : Session) (out : Option String) (answer : Answer) : Session :=
  match out with
  | some name => ((keep name answer).run.run session).2
  | none => session

theorem held?_keeping_other {out : Option String} {answer : Answer}
    (absent : ∀ name ∈ out, ∀ key ∈ answer.names name, source ≠ .named key) :
    (session.keeping out answer).held? source = session.held? source := by
  cases out with
  | none => rfl
  | some name =>
      have absent := absent name rfl
      cases source with
      | named key =>
          have missing : key ∉ answer.names name := fun member => absent key member rfl
          cases answer with
          | string value =>
              exact (Registry.get?_set ..).trans (if_neg (mt List.mem_singleton.mpr missing))
          | strings values => exact get?_setNumbered_other missing
          | _ => rfl
      | slot key => cases answer <;> rfl
      | _ => rfl

theorem keeping_wellFormed (wellFormed : session.WellFormed) {answer : Answer}
    (handed : answer.WellFormed) (out : Option String) :
    (session.keeping out answer).WellFormed := by
  cases out with
  | none => exact wellFormed
  | some name =>
      intro source s held
      cases source with
      | named key =>
          have known := wellFormed (.named key) s
          cases answer with
          | string value =>
              change (session.strings.set name value).get? key = some s at held
              rw [Registry.get?_set] at held
              split at held
              · cases held
                exact handed s List.mem_cons_self
              · exact known held
          | strings values =>
              rcases get?_setNumbered held with origin | member
              · exact known origin
              · exact handed s member
          | _ => exact known held
      | slot key =>
          have known := wellFormed (.slot key) s
          cases answer <;> exact known held
      | _ => cases held

end Session

structure Step where
  command : Command
  out : Option String

def Step.Replaces (step : Step) (answer : Answer) (source : StringSource) : Prop :=
  step.command.Repoints source ∨ ∃ name ∈ step.out, ∃ key ∈ answer.names name, source = .named key

namespace Session

variable {session : Session}

def stepped (session : Session) (step : Step) : Except Failure Answer × Session :=
  session.step step.command step.out

theorem run_keepResult {command : Command}
    (ordinary : ∀ sequence, command ≠ .string (.sequence sequence)) (name : String)
    (answer : Answer) (session : Session) :
    (keepResult name command answer).run.run session = (.ok (), session.keeping name answer) := by
  unfold keepResult
  split
  · exact absurd rfl (ordinary _)
  · cases answer <;> rfl

theorem run_runKept {command : Command}
    (ordinary : ∀ sequence, command ≠ .string (.sequence sequence)) (out : Option String)
    (session : Session) :
    (runKept command out).run.run session =
      match (run command).run.run session with
      | (.ok answer, middle) => (.ok answer, middle.keeping out answer)
      | (.error failure, middle) => (.error failure, middle) := by
  rw [runKept, run_bind]
  rcases (run command).run.run session with ⟨failure | answer, middle⟩
  · rfl
  · cases out with
    | none => rfl
    | some name =>
        dsimp only
        rw [run_bind, run_keepResult ordinary]
        rfl

theorem reads_runKept_sequence (sequence : SequenceSource) (out : Option String) :
    Reads Answer.WellFormed (runKept (.string (.sequence sequence)) out) := by
  have answers : Reads Answer.WellFormed (run (.string (.sequence sequence))) :=
    reads_runString (by nofun)
  refine answers.bind fun answer handed => ?_
  cases out with
  | none => exact Guarantee.holds_return handed
  | some name =>
      have keeps : Reads (fun _ => True)
          (keepResult name (.string (.sequence sequence)) answer) := by
        refine (reads_resolveSequence sequence).bind fun segments _ => ?_
        exact reads_modify fun _ => rfl
      exact keeps.bind fun _ _ => Guarantee.holds_return handed

theorem Sound.keeping {step : Step} {before middle : Session} {answer : Answer}
    (sound : Sound step.command (fun _ => step.command.Repoints) before (.ok answer, middle)) :
    Sound step.command step.Replaces before (.ok answer, middle.keeping step.out answer) := by
  refine ⟨keeping_wellFormed sound.wellFormed (sound.answer answer rfl) step.out, sound.answer,
    fun {source s} held stays => ?_⟩
  have stays := stays answer rfl
  have absent : ∀ name ∈ step.out, ∀ key ∈ answer.names name, source ≠ .named key :=
    fun name out key member same => stays (Or.inr ⟨name, out, key, member, same⟩)
  obtain ⟨t, later, follows⟩ := sound.follows held fun _ _ => stays ∘ Or.inl
  exact ⟨t, (held?_keeping_other absent).trans later, follows⟩

theorem Sound.failing {step : Step} {before middle : Session} {failure : Failure}
    (sound : Sound step.command (fun _ => step.command.Repoints) before (.error failure, middle)) :
    Sound step.command step.Replaces before (.error failure, middle) :=
  ⟨sound.wellFormed, sound.answer, fun held _ => sound.follows held nofun⟩

theorem sound_runKept (step : Step) (wellFormed : session.WellFormed) :
    Sound step.command step.Replaces session
      ((runKept step.command step.out).run.run session) := by
  by_cases sequence : ∃ sequence, step.command = .string (.sequence sequence)
  · -- Here the sequence that the command names is kept, and not its answer.
    obtain ⟨sequence, same⟩ := sequence
    rw [same]
    exact (reads_runKept_sequence sequence step.out).sound wellFormed
      (by rintro source s ⟨_, ⟨⟩, _⟩)
  · have sound := sound_run step.command wellFormed
    rw [run_runKept (not_exists.mp sequence)]
    rcases ran : (run step.command).run.run session with ⟨failure | answer, middle⟩
    all_goals rw [ran] at sound
    · exact sound.failing
    · exact sound.keeping

def cleared (session : Session) : Session := { session with log := [] }

theorem sound_step (step : Step) (wellFormed : session.WellFormed) :
    Sound step.command step.Replaces session (session.stepped step) := by
  -- A step starts with an empty log, which holds no strings.
  have sound : Sound step.command step.Replaces session.cleared (session.stepped step) :=
    sound_runKept step wellFormed
  exact ⟨sound.wellFormed, sound.answer, sound.follows⟩

def after (session : Session) (steps : List Step) : Session :=
  steps.foldl (fun session step => (session.stepped step).2) session

theorem new_wellFormed : new.WellFormed := by
  intro source s held
  cases source <;> cases held

theorem wellFormed_after (wellFormed : session.WellFormed) (steps : List Step) :
    (session.after steps).WellFormed := by
  induction steps generalizing session with
  | nil => exact wellFormed
  | cons step rest ih => exact ih (sound_step step wellFormed).wellFormed

/-- Whatever a session has run, each string in it is well formed, and so is each that a step hands
out. A string that the step does not replace keeps its content and its form; its text comes to be at
hand only if the step decodes it, and a text that was at hand stays. -/
theorem caches_of_run (steps : List Step) (step : Step) :
    let session := new.after steps
    let outcome := session.stepped step
    session.WellFormed ∧ (∀ answer, outcome.1 = .ok answer → answer.WellFormed) ∧
      ∀ source s, session.held? source = some s →
        (∀ answer, outcome.1 = .ok answer → ¬ step.Replaces answer source) →
          ∃ t, outcome.2.held? source = some t ∧
            RowString.Carried (step.command.Decodes source s) s t := by
  intro session outcome
  have wellFormed : session.WellFormed := wellFormed_after new_wellFormed steps
  have sound : Sound step.command step.Replaces session outcome := sound_step step wellFormed
  refine ⟨wellFormed, sound.answer, fun source s held stays => ?_⟩
  obtain ⟨t, later, follows⟩ := sound.follows held stays
  exact ⟨t, later, follows.carried⟩

def pooledRows : List Step :=
  [⟨.string (.query (.bytes [0x31]) .clone), some "one"⟩, ⟨.slot "row" .new, none⟩,
    ⟨.slot "row" (.reset (.segments [.bytes [0x20, 0x61, 0xE4], .bytes [],
      .bytes [0xB8, 0xAD, 0x62]]) 1 5), none⟩]

theorem caches_of_run_pooledRows :
    ∃ t, ((new.after pooledRows).stepped ⟨.string (.query (.slot "row") .upper), none⟩).2.held?
        (.slot "row") = some t ∧ t.content = Utf8.encode ['a', '中', 'b'] ∧ t.isDecoded := by
  have held : (new.after pooledRows).held? (.slot "row") = some RowString.straddlingChar := rfl
  have stays (answer : Answer) :
      ¬ Step.Replaces ⟨.string (.query (.slot "row") .upper), none⟩ answer (.slot "row") := by
    rintro (⟨_, _, same, _⟩ | ⟨_, kept, _⟩)
    · cases same
    · cases kept
  have foreign : ¬ RowString.straddlingChar.isAscii := by decide
  obtain ⟨-, -, carries⟩ := caches_of_run pooledRows ⟨.string (.query (.slot "row") .upper), none⟩
  obtain ⟨t, later, carried⟩ := carries (.slot "row") _ held fun answer _ => stays answer
  exact ⟨t, later, carried.content.trans RowString.straddlingChar_content,
    carried.isDecoded_iff.mpr (Or.inr ⟨.upper, rfl, foreign⟩)⟩

end Session

end RowText
