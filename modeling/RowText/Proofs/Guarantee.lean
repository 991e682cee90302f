import RowText.Fault

namespace RowText

variable {σ ε α β : Type}

theorem run_bind (first : ExceptT ε (StateM σ) α) (next : α → ExceptT ε (StateM σ) β) (s : σ) :
    (first >>= next).run.run s =
      match first.run.run s with
      | (.ok value, after) => (next value).run.run after
      | (.error failure, after) => (.error failure, after) := by
  rw [ExceptT.run_bind, StateT.run_bind]
  rcases first.run.run s with ⟨_ | _, after⟩ <;> rfl

/-- What actions rely on in the state that they find, and how the state that they leave is related
to it. -/
structure Guarantee (σ : Type) where
  invariant : σ → Prop
  relates : σ → σ → Prop
  refl (s : σ) : relates s s
  trans {s t u : σ} : relates s t → relates t u → relates s u
  preserves {s t : σ} : relates s t → invariant s → invariant t

namespace Guarantee

def Holds (g : Guarantee σ) (returns : α → Prop) (action : ExceptT ε (StateM σ) α) : Prop :=
  ∀ s, g.invariant s →
    g.relates s (action.run.run s).2 ∧
      ∀ value, (action.run.run s).1 = .ok value → returns value

variable {g : Guarantee σ} {returns : α → Prop} {results : β → Prop}

theorem holds_return {value : α} (admitted : returns value) :
    g.Holds returns (pure value : ExceptT ε (StateM σ) α) := by
  intro s _
  refine ⟨g.refl s, ?_⟩
  rintro _ ⟨⟩
  exact admitted

theorem holds_throw (failure : ε) :
    g.Holds returns (throw failure : ExceptT ε (StateM σ) α) := by
  intro s _
  exact ⟨g.refl s, nofun⟩

theorem holds_get : g.Holds g.invariant (get : ExceptT ε (StateM σ) σ) := by
  intro s found
  refine ⟨g.refl s, ?_⟩
  rintro _ ⟨⟩
  exact found

theorem Holds.bind {first : ExceptT ε (StateM σ) α} {next : α → ExceptT ε (StateM σ) β}
    (holds : g.Holds returns first)
    (continues : ∀ value, returns value → g.Holds results (next value)) :
    g.Holds results (first >>= next) := by
  intro s found
  obtain ⟨related, admitted⟩ := holds s found
  rw [run_bind]
  rcases ran : first.run.run s with ⟨failure | value, middle⟩
  all_goals rw [ran] at related admitted
  · exact ⟨related, nofun⟩
  · obtain ⟨later, done⟩ := continues value (admitted value rfl) middle (g.preserves related found)
    exact ⟨g.trans related later, done⟩

theorem holds_mapM {action : α → ExceptT ε (StateM σ) β} {items : List α}
    (each : ∀ item ∈ items, g.Holds results (action item)) :
    g.Holds (fun values => ∀ value ∈ values, results value) (items.mapM action) := by
  induction items with
  | nil => exact holds_return nofun
  | cons item rest ih =>
      rw [List.mapM_cons]
      refine (each item List.mem_cons_self).bind fun value first => ?_
      refine (ih fun item member => each item (List.mem_cons_of_mem _ member)).bind ?_
      intro values others
      exact holds_return (List.forall_mem_cons.mpr ⟨first, others⟩)

end Guarantee

end RowText
