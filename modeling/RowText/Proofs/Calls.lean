import RowText.RowString.Cutting
import RowText.RowString.Inspect
import RowText.Proofs.Guarantee
import RowText.Proofs.WellFormed

namespace RowText.RowString

def decodedText? : RowString → Option String
  | owned _ decoded => decoded
  | view _ decoded => decoded
  | text value _ => some value

theorem isDecoded_eq (s : RowString) : s.isDecoded = s.decodedText?.isSome := by
  cases s <;> rfl

/-- The string is the same, or the same with its text encoded. -/
def Kept (s t : RowString) : Prop := t = s ∨ t = s.encoded

variable {s t u : RowString}

@[simp] theorem decoded_form (s : RowString) : s.decoded.form = s.form := by
  cases s <;> rfl

@[simp] theorem decoded_isDecoded (s : RowString) : s.decoded.isDecoded := by
  cases s <;> rfl

@[simp] theorem decoded_of_isDecoded (isDecoded : s.isDecoded) : s.decoded = s := by
  cases s with
  | owned segment text =>
      obtain ⟨value, rfl⟩ := Option.isSome_iff_exists.mp isDecoded
      rfl
  | view span text =>
      obtain ⟨value, rfl⟩ := Option.isSome_iff_exists.mp isDecoded
      rfl
  | text value encoded => rfl

@[simp] theorem encoded_form (s : RowString) : s.encoded.form = s.form := by
  cases s <;> rfl

@[simp] theorem encoded_decodedText? (s : RowString) :
    s.encoded.decodedText? = s.decodedText? := by
  cases s <;> rfl

@[simp] theorem encoded_encoded (s : RowString) : s.encoded.encoded = s.encoded := by
  cases s <;> rfl

theorem kept_refl (s : RowString) : Kept s s := Or.inl rfl

theorem kept_encoded (s : RowString) : Kept s s.encoded := Or.inr rfl

theorem Kept.trans (first : Kept s t) (second : Kept t u) : Kept s u := by
  rcases first with rfl | rfl
  · exact second
  · rcases second with rfl | rfl
    · exact Or.inr rfl
    · exact Or.inr (encoded_encoded s)

theorem Kept.wellFormed (kept : Kept s t) (wellFormed : s.WellFormed) : t.WellFormed := by
  rcases kept with rfl | rfl
  · exact wellFormed
  · exact encoded_wellFormed wellFormed

theorem Kept.content (kept : Kept s t) : t.content = s.content := by
  rcases kept with rfl | rfl <;> simp

theorem Kept.form (kept : Kept s t) : t.form = s.form := by
  rcases kept with rfl | rfl <;> simp

theorem Kept.decodedText? (kept : Kept s t) : t.decodedText? = s.decodedText? := by
  rcases kept with rfl | rfl <;> simp

def keeps : Guarantee RowString where
  invariant := WellFormed
  relates := Kept
  refl := kept_refl
  trans := Kept.trans
  preserves := Kept.wellFormed

theorem kept_slice (s : RowString) (start stop : Nat) :
    Kept s ((Reading.slice start stop).after s) := by
  change Kept s ((if start = stop then _ else if start = 0 ∧ stop = s.length then _ else _ :
    Reading RowString) s).2
  split
  · exact kept_refl s
  split
  · exact kept_refl s
  · cases s with
    | text value encoded => exact kept_encoded _
    | _ => exact kept_refl _

theorem inside_of_checkSlice {start stop : Nat} (checked : s.checkSlice start stop = .ok ()) :
    start ≤ stop ∧ stop ≤ s.length := by
  unfold checkSlice at checked
  split at checked
  next => cases checked
  next inside => omega

theorem sliceBytes_wellFormed (wellFormed : s.WellFormed) {start stop : Nat} (ordered : start ≤ stop)
    (inside : stop ≤ s.length) : (s.sliceBytes start stop).WellFormed := by
  rw [length_eq wellFormed] at inside
  have cut : CutAt (· ≤ s.content.length) s (s.sliceBytes start stop) :=
    ⟨start, stop, ordered, ordered.trans inside, inside, rfl⟩
  exact cut.wellFormed wellFormed fun _ => id

theorem run_slice (s : RowString) (start stop : Nat) :
    (Call.slice start stop).run.run s =
      match s.checkSlice start stop with
      | .ok () => (.ok (s.sliceBytes start stop), (Reading.slice start stop).after s)
      | .error fault => (.error fault, s) := by
  rw [Call.slice, run_bind]
  change (Call.checked (s.checkSlice start stop) >>= _).run.run s = _
  rw [run_bind]
  cases s.checkSlice start stop <;> rfl

theorem keeps_slice (start stop : Nat) : keeps.Holds WellFormed (Call.slice start stop) := by
  intro s wellFormed
  rw [run_slice]
  cases checked : s.checkSlice start stop with
  | error fault => exact ⟨kept_refl s, nofun⟩
  | ok done =>
      cases done
      obtain ⟨ordered, inside⟩ := inside_of_checkSlice checked
      refine ⟨kept_slice s start stop, ?_⟩
      rintro _ ⟨⟩
      exact sliceBytes_wellFormed wellFormed ordered inside

theorem keeps_piece (range : Option (Nat × Nat)) : keeps.Holds WellFormed (Call.piece range) := by
  cases range with
  | none => exact Guarantee.holds_return empty_wellFormed
  | some range => exact keeps_slice range.1 range.2

theorem keeps_checked {α : Type} {returns : α → Prop} {outcome : Checked α}
    (admitted : ∀ value, outcome = .ok value → returns value) :
    keeps.Holds returns (Call.checked outcome) := by
  cases outcome with
  | error fault => exact Guarantee.holds_throw fault
  | ok value => exact Guarantee.holds_return (admitted value rfl)

theorem keeps_checked_any {α : Type} (outcome : Checked α) :
    keeps.Holds (fun _ => True) (Call.checked outcome) :=
  keeps_checked fun _ _ => trivial

theorem keeps_cutting (cutting : Cutting) :
    keeps.Holds (fun parts => ∀ part ∈ parts, part.WellFormed) cutting.call := by
  refine Guarantee.holds_get.bind fun s _ => ?_
  refine (keeps_checked_any _).bind fun pieces _ => ?_
  exact Guarantee.holds_mapM fun range _ => keeps_piece range

end RowText.RowString
