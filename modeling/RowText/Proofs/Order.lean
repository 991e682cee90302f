import RowText.RowString.Order
import RowText.Proofs.Content
import Mathlib.Data.Nat.Digits.Defs

namespace RowText

def Precedes (xs ys : List UInt8) : Prop :=
  (∃ y rest, ys = xs ++ y :: rest) ∨
    ∃ common x y xRest yRest,
      xs = common ++ x :: xRest ∧ ys = common ++ y :: yRest ∧ x.toNat < y.toNat

theorem precedes_cons (x y : UInt8) (xs ys : List UInt8) :
    Precedes (x :: xs) (y :: ys) ↔ x.toNat < y.toNat ∨ x = y ∧ Precedes xs ys := by
  constructor
  · rintro (⟨z, rest, same⟩ | ⟨common, u, v, uRest, vRest, left, right, less⟩)
    · obtain ⟨rfl, rfl⟩ := List.cons.inj same
      exact Or.inr ⟨rfl, Or.inl ⟨z, rest, rfl⟩⟩
    · cases common with
      | nil =>
          obtain ⟨rfl, rfl⟩ := List.cons.inj left
          obtain ⟨rfl, rfl⟩ := List.cons.inj right
          exact Or.inl less
      | cons first common =>
          obtain ⟨rfl, rfl⟩ := List.cons.inj left
          obtain ⟨rfl, rfl⟩ := List.cons.inj right
          exact Or.inr ⟨rfl, Or.inr ⟨common, u, v, uRest, vRest, rfl, rfl, less⟩⟩
  · rintro (less | ⟨rfl, ⟨z, rest, rfl⟩ | ⟨common, u, v, uRest, vRest, rfl, rfl, less⟩⟩)
    · exact Or.inr ⟨[], x, y, xs, ys, rfl, rfl, less⟩
    · exact Or.inl ⟨z, rest, rfl⟩
    · exact Or.inr ⟨x :: common, u, v, uRest, vRest, rfl, rfl, less⟩

theorem compare_eq_lt_iff_precedes (xs ys : List UInt8) :
    compare xs ys = .lt ↔ Precedes xs ys := by
  induction xs generalizing ys with
  | nil =>
      cases ys with
      | nil => simp [Precedes]
      | cons y ys => simp [Precedes]
  | cons x xs ih =>
      cases ys with
      | nil => simp [Precedes]
      | cons y ys =>
          rw [List.compare_cons_cons, precedes_cons, ← ih, Ordering.then_eq_lt, Std.compare_eq_lt,
            Std.compare_eq_iff_eq, UInt8.lt_iff_toNat_lt]

namespace RowString

@[simp] theorem littleEndian_length (count value : Nat) :
    (littleEndian count value).length = count := by
  induction count generalizing value with
  | zero => rfl
  | succ count ih => rw [littleEndian, List.length_cons, ih]

theorem ofDigits_littleEndian (count value : Nat) :
    Nat.ofDigits 0x100 ((littleEndian count value).map UInt8.toNat) = value % 0x100 ^ count := by
  induction count generalizing value with
  | zero => simp [littleEndian, Nat.mod_one]
  | succ count ih =>
      rw [littleEndian, List.map_cons, Nat.ofDigits_cons, ih, pow_succ', Nat.mod_mul,
        UInt8.toNat_ofNat']

theorem hashFeed_eq (s : RowString) :
    s.hashFeed = lengthBytes s.content.length ++ s.content := by
  rw [hashFeed, bytes_eq]

@[simp] theorem lengthBytes_length (length : Nat) : (lengthBytes length).length = 8 :=
  littleEndian_length 8 length

theorem ofDigits_lengthBytes {length : Nat} (isWord : length < Word.limit) :
    Nat.ofDigits 0x100 ((lengthBytes length).map UInt8.toNat) = length := by
  rw [lengthBytes, ofDigits_littleEndian, Nat.mod_eq_of_lt]
  exact isWord

theorem hashFeed_append_inj {a b : RowString} (aWord : a.content.length < Word.limit)
    (bWord : b.content.length < Word.limit) {x y : List UInt8}
    (same : a.hashFeed ++ x = b.hashFeed ++ y) : a.content = b.content ∧ x = y := by
  simp only [hashFeed_eq, List.append_assoc] at same
  -- Headers are equally long, so the feeds split behind them, and then tell where contents end.
  have ⟨headers, rest⟩ := List.append_inj same (by simp)
  have lengths : a.content.length = b.content.length := by
    rw [← ofDigits_lengthBytes aWord, headers, ofDigits_lengthBytes bWord]
  exact List.append_inj rest lengths

theorem hashFeed_inj {a b : RowString} : a.hashFeed = b.hashFeed ↔ a.content = b.content := by
  simp only [hashFeed_eq]
  constructor
  · intro same
    exact (List.append_inj same (by simp)).2
  · intro same
    rw [same]

theorem hashFeed_of_prefix {a b : RowString} (aWord : a.content.length < Word.limit)
    (bWord : b.content.length < Word.limit) (leading : a.hashFeed <+: b.hashFeed) :
    a.hashFeed = b.hashFeed := by
  obtain ⟨rest, continued⟩ := leading
  have ⟨contents, _⟩ := hashFeed_append_inj aWord bWord (continued.trans (List.append_nil _).symm)
  exact hashFeed_inj.mpr contents

theorem flatMap_hashFeed_inj {as bs : List RowString}
    (aWords : ∀ s ∈ as, s.content.length < Word.limit)
    (bWords : ∀ s ∈ bs, s.content.length < Word.limit) :
    as.flatMap hashFeed = bs.flatMap hashFeed ↔ as.map content = bs.map content := by
  have feedNotNil (s : RowString) (rest : List UInt8) : s.hashFeed ++ rest ≠ [] := by
    intro nothing
    have length := congrArg List.length nothing
    simp [hashFeed_eq] at length
  induction as generalizing bs with
  | nil =>
      cases bs with
      | nil => exact ⟨fun _ => rfl, fun _ => rfl⟩
      | cons b bs => exact ⟨fun feeds => absurd feeds.symm (feedNotNil b _), nofun⟩
  | cons a as ih =>
      cases bs with
      | nil => exact ⟨fun feeds => absurd feeds (feedNotNil a _), nofun⟩
      | cons b bs =>
          have others :
              as.flatMap hashFeed = bs.flatMap hashFeed ↔ as.map content = bs.map content :=
            ih (fun s member => aWords s (List.mem_cons_of_mem _ member))
              (fun s member => bWords s (List.mem_cons_of_mem _ member))
          rw [List.flatMap_cons, List.flatMap_cons, List.map_cons, List.map_cons, List.cons.injEq,
            ← others]
          constructor
          · exact hashFeed_append_inj (aWords a List.mem_cons_self) (bWords b List.mem_cons_self)
          · rintro ⟨contents, feeds⟩
            rw [hashFeed_inj.mpr contents, feeds]

theorem compareTo_content {a b : RowString} (ha : a.WellFormed) (hb : b.WellFormed) :
    a.compareTo b = compare a.content b.content := by
  have walked : a.span.compareTo b.span = compare a.content b.content := by
    rw [Span.compareTo_eq (span_spec ha).2 (span_spec hb).2, (span_spec ha).1, (span_spec hb).1]
  unfold compareTo bothContiguous?
  cases lhs : a.contiguousBytes? with
  | none => exact walked
  | some x =>
      cases rhs : b.contiguousBytes? with
      | none => exact walked
      | some y => rw [contiguousBytes?_eq lhs, contiguousBytes?_eq rhs]

theorem equals_iff {a b : RowString} (ha : a.WellFormed) (hb : b.WellFormed) :
    a.equals b = true ↔ a.content = b.content := by
  rw [equals, compareTo_content ha hb, length_eq ha, length_eq hb, Bool.and_eq_true, beq_iff_eq,
    beq_iff_eq, Std.LawfulEqCmp.compare_eq_iff_eq]
  exact ⟨fun same => same.2, fun same => ⟨congrArg List.length same, same⟩⟩

theorem compareTo_swap {a b : RowString} (ha : a.WellFormed) (hb : b.WellFormed) :
    b.compareTo a = (a.compareTo b).swap := by
  rw [compareTo_content ha hb, compareTo_content hb ha]
  exact Std.OrientedCmp.eq_swap

theorem compareTo_eq_iff {a b : RowString} (ha : a.WellFormed) (hb : b.WellFormed) :
    a.compareTo b = .eq ↔ a.content = b.content := by
  rw [compareTo_content ha hb, Std.LawfulEqCmp.compare_eq_iff_eq]

theorem compareTo_lt_iff {a b : RowString} (ha : a.WellFormed) (hb : b.WellFormed) :
    a.compareTo b = .lt ↔ Precedes a.content b.content := by
  rw [compareTo_content ha hb, compare_eq_lt_iff_precedes]

theorem compareTo_gt_iff {a b : RowString} (ha : a.WellFormed) (hb : b.WellFormed) :
    a.compareTo b = .gt ↔ Precedes b.content a.content := by
  rw [← compareTo_lt_iff hb ha, compareTo_swap ha hb, Ordering.swap_eq_lt]

theorem compareTo_trans {a b c : RowString} (ha : a.WellFormed) (hb : b.WellFormed)
    (hc : c.WellFormed) (ab : (a.compareTo b).isLE) (bc : (b.compareTo c).isLE) :
    (a.compareTo c).isLE := by
  rw [compareTo_content ha hb] at ab
  rw [compareTo_content hb hc] at bc
  rw [compareTo_content ha hc]
  exact Std.TransCmp.isLE_trans ab bc

theorem sort_content {items : List RowString} (fine : ∀ s ∈ items, s.WellFormed) :
    (sort items).map content = (items.map content).mergeSort fun x y => (compare x y).isLE := by
  apply List.map_mergeSort
  intro a ha b hb
  rw [compareTo_content (fine a ha) (fine b hb)]

/-- Order, equality and hash feeds agree, and they are those of the contents. -/
theorem content_order :
    (∀ a b : RowString, a.WellFormed → b.WellFormed →
      (a.compareTo b = .lt ↔ Precedes a.content b.content) ∧
      (a.compareTo b = .gt ↔ Precedes b.content a.content) ∧
      (a.compareTo b = .eq ↔ a.content = b.content) ∧
      b.compareTo a = (a.compareTo b).swap ∧
      a.partialCompareTo b = some (a.compareTo b) ∧
      (a.equals b = true ↔ a.compareTo b = .eq) ∧
      (a.hashFeed = b.hashFeed ↔ a.content = b.content)) ∧
    (∀ a b c : RowString, a.WellFormed → b.WellFormed → c.WellFormed →
      (a.compareTo b).isLE → (b.compareTo c).isLE → (a.compareTo c).isLE) ∧
    (∀ a : RowString, a.WellFormed → a.length < Word.limit →
      ∃ header, a.hashFeed = header ++ a.content ∧ header.length = 8 ∧
        Nat.ofDigits 0x100 (header.map UInt8.toNat) = a.length) ∧
    (∀ a b : RowString, a.WellFormed → b.WellFormed → a.length < Word.limit →
      b.length < Word.limit → a.hashFeed <+: b.hashFeed → a.hashFeed = b.hashFeed) ∧
    ∀ as bs : List RowString, (∀ s ∈ as ++ bs, s.WellFormed ∧ s.length < Word.limit) →
      (as.flatMap hashFeed = bs.flatMap hashFeed ↔ as.map content = bs.map content) := by
  refine ⟨?_, fun a b c => compareTo_trans, ?_, ?_, ?_⟩
  · intro a b ha hb
    refine ⟨compareTo_lt_iff ha hb, compareTo_gt_iff ha hb, compareTo_eq_iff ha hb,
      compareTo_swap ha hb, rfl, ?_, hashFeed_inj⟩
    rw [equals_iff ha hb, compareTo_eq_iff ha hb]
  · intro a ha isWord
    rw [length_eq ha] at isWord ⊢
    exact ⟨lengthBytes a.content.length, hashFeed_eq a, lengthBytes_length _,
      ofDigits_lengthBytes isWord⟩
  · intro a b ha hb aWord bWord leading
    rw [length_eq ha] at aWord
    rw [length_eq hb] at bWord
    exact hashFeed_of_prefix aWord bWord leading
  · intro as bs fine
    have words (s : RowString) (member : s ∈ as ++ bs) : s.content.length < Word.limit := by
      rw [← length_eq (fine s member).1]
      exact (fine s member).2
    exact flatMap_hashFeed_inj (fun s member => words s (List.mem_append_left _ member))
      (fun s member => words s (List.mem_append_right _ member))

theorem content_order_straddling :
    straddling.WellFormed ∧ straddling.length < Word.limit ∧
      straddling.compareTo (ofBytes [0x31, 0x2E, 0x35]) = .eq ∧
      straddling.compareTo (ofBytes [0x31, 0x2E, 0x35, 0x00]) = .lt ∧
      [straddling, straddling].flatMap hashFeed =
        [ofBytes [0x31, 0x2E, 0x35], straddling].flatMap hashFeed := by
  have ⟨pairs, _, _, _, sequences⟩ := content_order
  refine ⟨straddling_wellFormed, by decide, ?_, ?_, ?_⟩
  · have ⟨_, _, same, _⟩ := pairs straddling (ofBytes [0x31, 0x2E, 0x35]) straddling_wellFormed
      (ofBytes_wellFormed _)
    exact same.mpr straddling_content
  · have ⟨less, _⟩ := pairs straddling (ofBytes [0x31, 0x2E, 0x35, 0x00]) straddling_wellFormed
      (ofBytes_wellFormed _)
    exact less.mpr (Or.inl ⟨0x00, [], rfl⟩)
  · refine (sequences _ _ ?_).mpr rfl
    intro s member
    have cases : s = straddling ∨ s = ofBytes [0x31, 0x2E, 0x35] := by
      simp only [List.cons_append, List.nil_append, List.mem_cons, List.not_mem_nil] at member
      tauto
    rcases cases with rfl | rfl
    · exact ⟨straddling_wellFormed, by decide⟩
    · exact ⟨ofBytes_wellFormed _, by decide⟩

end RowString

end RowText
