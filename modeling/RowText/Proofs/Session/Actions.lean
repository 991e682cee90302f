import RowText.Session.Run
import RowText.Proofs.LayoutIndependence
import RowText.Proofs.Calls

namespace RowText

namespace Session

def held? (session : Session) : StringSource → Option RowString
  | .named name => session.strings.get? name
  | .slot name => (session.slots.get? name).map Slot.current
  | _ => none

def WellFormed (session : Session) : Prop :=
  ∀ source s, session.held? source = some s → s.WellFormed

theorem held?_of_slot {session : Session} {name : String} {slot : Slot}
    (found : session.slots.get? name = some slot) :
    session.held? (.slot name) = some slot.current :=
  congrArg (Option.map Slot.current) found

theorem current_wellFormed {session : Session} (wellFormed : session.WellFormed) {name : String}
    {slot : Slot} (found : session.slots.get? name = some slot) : slot.current.WellFormed :=
  wellFormed (.slot name) slot.current (held?_of_slot found)

/-- Each string is held where it was, with no more than its text encoded. -/
def Undisturbed (before after : Session) : Prop :=
  ∀ source, Option.Rel RowString.Kept (before.held? source) (after.held? source)

variable {before between after : Session}

theorem undisturbed_of_held? (same : after.held? = before.held?) : Undisturbed before after := by
  intro source
  rw [same]
  cases before.held? source with
  | none => exact .none
  | some s => exact .some (RowString.kept_refl s)

theorem undisturbed_refl (session : Session) : Undisturbed session session :=
  undisturbed_of_held? rfl

theorem rel_kept_trans {x y z : Option RowString} (first : Option.Rel RowString.Kept x y)
    (second : Option.Rel RowString.Kept y z) : Option.Rel RowString.Kept x z := by
  cases first with
  | none => exact second
  | some kept =>
      cases second with
      | some later => exact .some (kept.trans later)

theorem Undisturbed.trans (first : Undisturbed before between)
    (second : Undisturbed between after) : Undisturbed before after :=
  fun source => rel_kept_trans (first source) (second source)

theorem Undisturbed.held (undisturbed : Undisturbed before after) {source : StringSource}
    {s : RowString} (held : before.held? source = some s) :
    ∃ t, after.held? source = some t ∧ RowString.Kept s t := by
  have related := undisturbed source
  rw [held] at related
  generalize after.held? source = last at related
  cases related with
  | some kept => exact ⟨_, rfl, kept⟩

theorem Undisturbed.wellFormed (undisturbed : Undisturbed before after)
    (wellFormed : before.WellFormed) : after.WellFormed := by
  intro source t held
  have related := undisturbed source
  rw [held] at related
  generalize origin : before.held? source = first at related
  cases related with
  | some kept => exact kept.wellFormed (wellFormed source _ origin)

variable {α β : Type}

def undisturbed : Guarantee Session where
  invariant := WellFormed
  relates := Undisturbed
  refl := undisturbed_refl
  trans := Undisturbed.trans
  preserves := Undisturbed.wellFormed

def Reads (returns : α → Prop) (action : Action α) : Prop := undisturbed.Holds returns action

variable {returns : α → Prop} {results : β → Prop}

theorem reads_checked {outcome : Checked α}
    (admitted : ∀ value, outcome = .ok value → returns value) :
    Reads returns (checked outcome) := by
  cases outcome with
  | error fault => exact Guarantee.holds_throw _
  | ok value => exact Guarantee.holds_return (admitted value rfl)

theorem reads_checked_any (outcome : Checked α) : Reads (fun _ => True) (checked outcome) :=
  reads_checked fun _ _ => trivial

theorem reads_modify {change : Session → Session}
    (same : ∀ session, (change session).held? = session.held?) :
    Reads (fun _ => True) (modify change : Action PUnit) := by
  intro session _
  exact ⟨undisturbed_of_held? (same session), fun _ _ => trivial⟩

theorem reads_report (events : List Event) : Reads (fun _ => True) (report events) :=
  reads_modify fun _ => rfl

theorem run_lookup (registry : Session → Registry α) (name : String) (session : Session) :
    (lookup registry name).run.run session =
      match (registry session).get? name with
      | some value => (.ok value, session)
      | none => (.error (.unknownName name), session) := by
  unfold lookup
  rw [run_bind]
  change ExceptT.run (match (registry session).get? name with
    | some value => return value
    | none => throw (.unknownName name) : Action α) session = _
  cases (registry session).get? name <;> rfl

theorem reads_lookup {registry : Session → Registry α} {name : String}
    (admitted : ∀ session, session.WellFormed → ∀ value,
      (registry session).get? name = some value → returns value) :
    Reads returns (lookup registry name) := by
  intro session wellFormed
  rw [run_lookup]
  cases found : (registry session).get? name with
  | none => exact ⟨undisturbed_refl session, nofun⟩
  | some value =>
      refine ⟨undisturbed_refl session, ?_⟩
      rintro _ ⟨⟩
      exact admitted session wellFormed value found

def segmentOf (session : Session) : SegmentSource → Except Failure Segment
  | .named name =>
    match session.segments.get? name with
    | some segment => .ok segment
    | none => .error (.unknownName name)
  | .bytes data => .ok ⟨data⟩

def sequenceOf (session : Session) : SequenceSource → Except Failure Sequence
  | .named name =>
    match session.sequences.get? name with
    | some sequence => .ok sequence
    | none => .error (.unknownName name)
  | .segments sources => (sources.mapM session.segmentOf).map fun segments => ⟨segments, none⟩

def segmentsOf (session : Session) (source : SequenceSource) : Except Failure (List Segment) :=
  (session.sequenceOf source).map Sequence.segments

theorem run_resolveSegment (source : SegmentSource) (session : Session) :
    (resolveSegment source).run.run session = (session.segmentOf source, session) := by
  cases source with
  | named name =>
      rw [resolveSegment, run_lookup, segmentOf]
      cases session.segments.get? name <;> rfl
  | bytes data => rfl

theorem run_mapM {action : α → Action β} {outcome : α → Except Failure β} {session : Session}
    (each : ∀ item, (action item).run.run session = (outcome item, session)) (items : List α) :
    (items.mapM action).run.run session = (items.mapM outcome, session) := by
  induction items with
  | nil => rfl
  | cons item rest ih =>
      rw [List.mapM_cons, List.mapM_cons, run_bind, each]
      cases outcome item with
      | error failure => rfl
      | ok value =>
          dsimp only
          rw [run_bind, ih]
          cases rest.mapM outcome <;> rfl

theorem run_resolveSequence (source : SequenceSource) (session : Session) :
    (resolveSequence source).run.run session = (session.sequenceOf source, session) := by
  cases source with
  | named name =>
      rw [resolveSequence, run_lookup, sequenceOf]
      cases session.sequences.get? name <;> rfl
  | segments sources =>
      rw [resolveSequence, run_bind,
        run_mapM (fun source => run_resolveSegment source session) sources, sequenceOf]
      cases sources.mapM session.segmentOf <;> rfl

theorem reads_of_run {action : Action α} {outcome : Session → Except Failure α}
    (runs : ∀ session, action.run.run session = (outcome session, session)) :
    Reads (fun _ => True) action := by
  intro session _
  rw [runs session]
  exact ⟨undisturbed_refl session, fun _ _ => trivial⟩

theorem reads_resolveSegment (source : SegmentSource) :
    Reads (fun _ => True) (resolveSegment source) :=
  reads_of_run (run_resolveSegment source)

theorem reads_resolveSequence (source : SequenceSource) :
    Reads (fun _ => True) (resolveSequence source) :=
  reads_of_run (run_resolveSequence source)

theorem reads_lookup_any {registry : Session → Registry α} (name : String) :
    Reads (fun _ => True) (lookup registry name) :=
  reads_lookup fun _ _ _ _ => trivial

theorem reads_makeView (span : Span) : Reads RowString.WellFormed (makeView span) := by
  refine (reads_checked fun s made => RowString.ofSpan_wellFormed made).bind fun s wellFormed => ?_
  exact (reads_report _).bind fun _ _ => Guarantee.holds_return wellFormed

theorem reads_resolveString (source : StringSource) :
    Reads RowString.WellFormed (resolveString source) := by
  cases source with
  | named name => exact reads_lookup fun _ wellFormed => wellFormed (.named name)
  | slot name =>
      have reads : Reads (fun slot => slot.current.WellFormed) (lookup Session.slots name) :=
        reads_lookup fun _ wellFormed _ found => current_wellFormed wellFormed found
      exact reads.bind fun slot wellFormed => Guarantee.holds_return wellFormed
  | text value => exact Guarantee.holds_return (RowString.ofText_wellFormed value)
  | bytes data => exact Guarantee.holds_return (RowString.ofBytes_wellFormed data)
  | segment source =>
      exact (reads_resolveSegment source).bind fun segment _ =>
        Guarantee.holds_return (RowString.ofSegment_wellFormed segment)
  | view sequence offset length =>
      exact (reads_resolveSequence sequence).bind fun _ _ => reads_makeView _
  | layout layout value =>
      cases layout with
      | twoSegments pad =>
          exact (reads_checked_any _).bind fun _ _ => reads_makeView _
      | _ => exact reads_checked fun _ made => RowString.build_wellFormed made
  | split data pad => exact (reads_checked_any _).bind fun _ _ => reads_makeView _
  | blank length => exact reads_checked fun _ made => RowString.blank_wellFormed made
  | empty => exact Guarantee.holds_return RowString.empty_wellFormed

theorem reads_resolveOptional (source : Option StringSource) :
    Reads (fun s => ∀ t ∈ s, t.WellFormed) (resolveOptional source) := by
  cases source with
  | none => exact Guarantee.holds_return nofun
  | some source =>
      refine (reads_resolveString source).bind fun s wellFormed => Guarantee.holds_return ?_
      rintro t ⟨⟩
      exact wellFormed

def touched (session : Session) (source : StringSource) (change : RowString → RowString) :
    Session :=
  ((touch source change).run.run session).2

theorem touched_named (session : Session) (name : String) (change : RowString → RowString) :
    session.touched (.named name) change =
      { session with strings := session.strings.modify name change } := rfl

theorem touched_slot (session : Session) (name : String) (change : RowString → RowString) :
    session.touched (.slot name) change =
      { session with
        slots := session.slots.modify name fun slot =>
          { slot with current := change slot.current } } := rfl

@[simp] theorem held?_touched_self (session : Session) (source : StringSource)
    (change : RowString → RowString) :
    (session.touched source change).held? source = (session.held? source).map change := by
  cases source with
  | named name => simp [held?, touched_named]
  | slot name => simp [held?, touched_slot, Function.comp_def]
  | _ => rfl

@[simp] theorem held?_touched_other (session : Session) {source other : StringSource}
    (distinct : other ≠ source) (change : RowString → RowString) :
    (session.touched source change).held? other = session.held? other := by
  cases source with
  | named name =>
      cases other with
      | named key =>
          have apart : key ≠ name := by simpa using distinct
          simp [held?, touched_named, apart]
      | _ => rfl
  | slot name =>
      cases other with
      | slot key =>
          have apart : key ≠ name := by simpa using distinct
          simp [held?, touched_slot, apart]
      | _ => rfl
  | _ => rfl

theorem touched_wellFormed {session : Session} (wellFormed : session.WellFormed)
    (source : StringSource) {change : RowString → RowString}
    (changed : ∀ s, s.WellFormed → (change s).WellFormed) :
    (session.touched source change).WellFormed := by
  intro other t held
  by_cases same : other = source
  · subst same
    rw [held?_touched_self] at held
    obtain ⟨s, origin, rfl⟩ := Option.map_eq_some_iff.mp held
    exact changed s (wellFormed other s origin)
  · rw [held?_touched_other session same] at held
    exact wellFormed other t held

theorem reads_touch (source : StringSource) {change : RowString → RowString}
    (keeps : ∀ s, s.WellFormed → RowString.Kept s (change s)) :
    Reads (fun _ => True) (touch source change) := by
  intro session wellFormed
  refine ⟨fun other => ?_, fun _ _ => trivial⟩
  by_cases same : other = source
  · subst same
    rw [← touched, held?_touched_self]
    cases held : session.held? other with
    | none => exact .none
    | some s => exact .some (keeps s (wellFormed other s held))
  · rw [← touched, held?_touched_other session same]
    exact undisturbed_refl session other

end Session

end RowText
