namespace RowText

structure Registry (α : Type) where
  entries : List (String × α)

namespace Registry

variable {α : Type}

def empty : Registry α := ⟨[]⟩

def get? (r : Registry α) (name : String) : Option α := r.entries.lookup name

def erase (r : Registry α) (name : String) : Registry α :=
  ⟨r.entries.filter fun entry => entry.1 != name⟩

def set (r : Registry α) (name : String) (value : α) : Registry α :=
  ⟨(name, value) :: (r.erase name).entries⟩

def modify (r : Registry α) (name : String) (change : α → α) : Registry α :=
  match r.get? name with
  | some value => r.set name (change value)
  | none => r

@[simp] theorem lookup_cons (key : String) (value : α) (rest : List (String × α)) (name : String) :
    ((key, value) :: rest).lookup name = if name = key then some value else rest.lookup name := by
  rw [List.lookup_cons]
  by_cases here : name = key
  · rw [if_pos here, here, beq_self_eq_true]
  · rw [if_neg here, beq_false_of_ne here]

theorem lookup_filter_ne (entries : List (String × α)) (name other : String) :
    (entries.filter fun entry => entry.1 != name).lookup other =
      if other = name then none else entries.lookup other := by
  induction entries with
  | nil => simp
  | cons entry rest ih =>
      rw [List.filter_cons, lookup_cons]
      by_cases erased : entry.1 = name
      · rw [if_neg (by simpa using erased), ih]
        by_cases here : other = name
        · rw [if_pos here, if_pos here]
        · rw [if_neg here, if_neg here, if_neg (erased ▸ here)]
      · rw [if_pos (by simpa using erased), lookup_cons, ih]
        by_cases found : other = entry.1
        · rw [if_pos found, if_neg (found ▸ erased), if_pos found]
        · rw [if_neg found, if_neg found]

@[simp] theorem get?_erase (r : Registry α) (name other : String) :
    (r.erase name).get? other = if other = name then none else r.get? other :=
  lookup_filter_ne r.entries name other

@[simp] theorem get?_set (r : Registry α) (name other : String) (value : α) :
    (r.set name value).get? other = if other = name then some value else r.get? other := by
  rw [get?, set, lookup_cons]
  by_cases here : other = name
  · rw [if_pos here, if_pos here]
  · rw [if_neg here, if_neg here]
    exact (get?_erase r name other).trans (if_neg here)

@[simp] theorem get?_modify (r : Registry α) (name other : String) (change : α → α) :
    (r.modify name change).get? other =
      if other = name then (r.get? other).map change else r.get? other := by
  unfold modify
  cases held : r.get? name with
  | none =>
      by_cases here : other = name
      · rw [if_pos here, here]
        simp [held]
      · rw [if_neg here]
  | some value =>
      dsimp only
      rw [get?_set]
      by_cases here : other = name
      · rw [if_pos here, if_pos here, here, held, Option.map_some]
      · rw [if_neg here, if_neg here]

end Registry

end RowText
