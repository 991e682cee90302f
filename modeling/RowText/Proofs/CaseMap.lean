import RowText.Unicode.CaseMap
import RowText.Proofs.Utf8

namespace RowText.Unicode

theorem ofNat_eq_replacement {n : Nat} (same : Char.ofNat n = Utf8.replacement) : n = 0xFFFD := by
  by_cases valid : n.isValidChar
  · rw [← Utf8.toNat_ofNat_char valid, same]
    rfl
  · rw [Char.ofNat, dif_neg valid] at same
    exact absurd same (by decide)

structure Unreplaced (expansions : List (Nat × List Nat)) (runs : List CaseRun) : Prop where
  expanded : ∀ entry ∈ expansions, 0xFFFD ∉ entry.2
  shifted : ∀ run ∈ runs, run.covers (0xFFFD - run.shift).toNat = false

theorem unreplaced_upper : Unreplaced upperExpansions upperRuns :=
  ⟨by decide +kernel, by decide +kernel⟩

theorem unreplaced_lower : Unreplaced lowerExpansions lowerRuns :=
  ⟨by decide +kernel, by decide +kernel⟩

theorem eq_replacement_of_mapChar {expansions : List (Nat × List Nat)} {runs : List CaseRun}
    (unreplaced : Unreplaced expansions runs) {c : Char}
    (image : Utf8.replacement ∈ mapChar expansions runs c) : c = Utf8.replacement := by
  unfold mapChar at image
  split at image
  next codes expansion =>
    obtain ⟨code, member, same⟩ := List.mem_map.mp image
    rw [ofNat_eq_replacement same] at member
    obtain ⟨before, after, table, -⟩ := List.lookup_eq_some_iff.mp expansion
    have entry : (c.toNat, codes) ∈ expansions := by simp [table]
    exact absurd member (unreplaced.expanded _ entry)
  next =>
    have code := ofNat_eq_replacement (List.mem_singleton.mp image).symm
    unfold shiftCode at code
    split at code
    next run found =>
      have covers := List.find?_some found
      have member := List.mem_of_find?_eq_some found
      have source : c.toNat = (0xFFFD - run.shift).toNat := by omega
      rw [source, unreplaced.shifted run member] at covers
      cases covers
    next => exact Char.toNat_inj.mp code

theorem replacement_mem_upper {cs : List Char} (image : Utf8.replacement ∈ upper cs) :
    Utf8.replacement ∈ cs := by
  obtain ⟨c, member, mapped⟩ := List.mem_flatMap.mp image
  rwa [← eq_replacement_of_mapChar unreplaced_upper mapped]

theorem mem_lowerFrom {d : Char} {before cs : List Char} (member : d ∈ lowerFrom before cs) :
    d = '\u03C2' ∨ d = '\u03C3' ∨ ∃ c ∈ cs, d ∈ lowerChar c := by
  induction cs generalizing before with
  | nil => cases member
  | cons c rest ih =>
      unfold lowerFrom at member
      rcases List.mem_append.mp member with first | later
      · split at first
        next =>
          obtain rfl := List.mem_singleton.mp first
          unfold lowerSigma
          split
          · exact Or.inl rfl
          · exact Or.inr (Or.inl rfl)
        next => exact Or.inr (Or.inr ⟨c, List.mem_cons_self, first⟩)
      · refine (ih later).imp_right (Or.imp_right ?_)
        rintro ⟨source, inside, image⟩
        exact ⟨source, List.mem_cons_of_mem c inside, image⟩

theorem replacement_mem_lower {cs : List Char} (image : Utf8.replacement ∈ lower cs) :
    Utf8.replacement ∈ cs := by
  rcases mem_lowerFrom image with final | medial | ⟨c, member, mapped⟩
  · exact absurd final (by decide)
  · exact absurd medial (by decide)
  · rwa [← eq_replacement_of_mapChar unreplaced_lower mapped]

end RowText.Unicode
