import RowText.Proofs.Span

namespace RowText

theorem checkRange_ok {offset length capacity : Nat}
    (isWord : offset + length < Word.limit) (within : offset + length ≤ capacity) :
    checkRange offset length capacity = .ok () := by
  rw [checkRange, Word.add?, if_pos isWord]
  exact if_pos within

theorem of_checkRange_ok {offset length capacity : Nat}
    (fits : checkRange offset length capacity = .ok ()) :
    offset + length < Word.limit ∧ offset + length ≤ capacity := by
  unfold checkRange Word.add? at fits
  by_cases isWord : offset + length < Word.limit
  · rw [if_pos isWord] at fits
    by_cases within : offset + length ≤ capacity
    · exact ⟨isWord, within⟩
    · simp [within] at fits
  · rw [if_neg isWord] at fits
    cases fits

theorem checkRange_error {offset length capacity : Nat} (past : capacity < offset + length) :
    checkRange offset length capacity =
      .error (.outOfBounds (Word.addSat offset length) capacity) := by
  unfold checkRange Word.add?
  by_cases isWord : offset + length < Word.limit
  · rw [if_pos isWord]
    exact if_neg (Nat.not_le_of_lt past)
  · rw [if_neg isWord]

def pastEnd (offset length capacity : Nat) : Fault :=
  .outOfBounds (Word.addSat offset length) capacity

theorem checkRange_eq {capacity : Nat} (isWord : capacity < Word.limit) (offset length : Nat) :
    checkRange offset length capacity =
      if offset + length ≤ capacity then .ok () else .error (pastEnd offset length capacity) := by
  by_cases within : offset + length ≤ capacity
  · rw [if_pos within, checkRange_ok (Nat.lt_of_le_of_lt within isWord) within]
  · rw [if_neg within, checkRange_error (Nat.lt_of_not_le within), pastEnd]

theorem compareRanges_eq {lhs rhs : List UInt8} (lhsWord : lhs.length < Word.limit)
    (rhsWord : rhs.length < Word.limit) (lhsOffset rhsOffset length : Nat) :
    compareRanges lhs rhs lhsOffset rhsOffset length =
      if lhs.length < lhsOffset + length then .error (pastEnd lhsOffset length lhs.length)
      else if rhs.length < rhsOffset + length then .error (pastEnd rhsOffset length rhs.length)
      else .ok (compare (byteSlice lhs lhsOffset (lhsOffset + length))
        (byteSlice rhs rhsOffset (rhsOffset + length))) := by
  rw [compareRanges, checkRange_eq lhsWord, checkRange_eq rhsWord]
  by_cases lhsWithin : lhsOffset + length ≤ lhs.length
  · rw [if_pos lhsWithin, if_neg (Nat.not_lt_of_le lhsWithin)]
    by_cases rhsWithin : rhsOffset + length ≤ rhs.length
    · rw [if_pos rhsWithin, if_neg (Nat.not_lt_of_le rhsWithin)]
      rfl
    · rw [if_neg rhsWithin, if_pos (Nat.lt_of_not_le rhsWithin)]
      rfl
  · rw [if_neg lhsWithin, if_pos (Nat.lt_of_not_le lhsWithin)]
    rfl

namespace Segment

variable {s : Segment}

theorem isWord_of_short {size : Nat} (short : size ≤ Word.maxAllocation) :
    size + 1 < Word.limit :=
  Nat.lt_of_le_of_lt (Nat.succ_le_succ short) (by decide)

theorem range_eq (short : s.size ≤ Word.maxAllocation) (offset length : Nat) :
    s.range offset length =
      if offset + length ≤ s.size then .ok (byteSlice s.bytes offset (offset + length))
      else .error (pastEnd offset length s.size) := by
  rw [range, checkRange_eq (Nat.lt_of_succ_lt (isWord_of_short short))]
  split <;> rfl

namespace Bound

def exactStart : Bound → Nat
  | unbounded => 0
  | included index => index
  | excluded index => index + 1

def exactStop (size : Nat) : Bound → Nat
  | unbounded => size
  | included index => index + 1
  | excluded index => index

theorem addSat_one_cases {size : Nat} (short : size ≤ Word.maxAllocation) (index : Nat) :
    Word.addSat index 1 = index + 1 ∨ size < Word.addSat index 1 ∧ size < index + 1 := by
  have isWord := isWord_of_short short
  rw [Word.addSat]
  omega

theorem start_cases {size : Nat} (short : size ≤ Word.maxAllocation) (bound : Bound) :
    bound.start = bound.exactStart ∨ size < bound.start ∧ size < bound.exactStart := by
  cases bound with
  | unbounded => exact Or.inl rfl
  | included index => exact Or.inl rfl
  | excluded index => exact addSat_one_cases short index

theorem stop_cases {size : Nat} (short : size ≤ Word.maxAllocation) (bound : Bound) :
    bound.stop size = bound.exactStop size ∨
      size < bound.stop size ∧ size < bound.exactStop size := by
  cases bound with
  | unbounded => exact Or.inl rfl
  | included index => exact addSat_one_cases short index
  | excluded index => exact Or.inl rfl

theorem exact_of_inside {size : Nat} (short : size ≤ Word.maxAllocation) {lower upper : Bound}
    (inside : lower.start ≤ upper.stop size ∧ upper.stop size ≤ size) :
    lower.start = lower.exactStart ∧ upper.stop size = upper.exactStop size := by
  rcases lower.start_cases short with start | start <;>
    rcases upper.stop_cases short with stop | stop <;> omega

theorem inside_iff {size : Nat} (short : size ≤ Word.maxAllocation) (lower upper : Bound) :
    lower.start ≤ upper.stop size ∧ upper.stop size ≤ size ↔
      lower.exactStart ≤ upper.exactStop size ∧ upper.exactStop size ≤ size := by
  rcases lower.start_cases short with start | start <;>
    rcases upper.stop_cases short with stop | stop <;> omega

end Bound

def sliceFault (lower upper : Bound) (size : Nat) : Fault :=
  if upper.stop size < lower.start then reversedRange lower.start (upper.stop size)
  else pastEnd lower.start (upper.stop size - lower.start) size

theorem slice_eq (short : s.size ≤ Word.maxAllocation) (lower upper : Bound) :
    s.slice lower upper =
      if lower.exactStart ≤ upper.exactStop s.size ∧ upper.exactStop s.size ≤ s.size then
        .ok ⟨byteSlice s.bytes lower.exactStart (upper.exactStop s.size)⟩
      else .error (sliceFault lower upper s.size) := by
  rw [slice, checkRange_eq (Nat.lt_of_succ_lt (isWord_of_short short))]
  by_cases inside : lower.start ≤ upper.stop s.size ∧ upper.stop s.size ≤ s.size
  · obtain ⟨start, stop⟩ := Bound.exact_of_inside short inside
    rw [if_neg (Nat.not_lt_of_le inside.1), if_pos (by omega), ← start, ← stop, if_pos inside]
    rfl
  · rw [if_neg (mt (Bound.inside_iff short lower upper).mpr inside), sliceFault]
    by_cases reversed : upper.stop s.size < lower.start
    · rw [if_pos reversed, if_pos reversed]
    · rw [if_neg reversed, if_neg reversed, if_neg (by omega)]
      rfl

theorem slice_eq_ok_iff (short : s.size ≤ Word.maxAllocation) {lower upper : Bound}
    {part : Segment} :
    s.slice lower upper = .ok part ↔
      (lower.exactStart ≤ upper.exactStop s.size ∧ upper.exactStop s.size ≤ s.size) ∧
        part = ⟨byteSlice s.bytes lower.exactStart (upper.exactStop s.size)⟩ := by
  rw [slice_eq short]
  split
  next inside => simp [inside, eq_comm]
  next outside => simp [outside]

theorem slice_slice (short : s.size ≤ Word.maxAllocation) {lower upper inner outer : Bound}
    {part smaller : Segment} (cut : s.slice lower upper = .ok part)
    (cutAgain : part.slice inner outer = .ok smaller) :
    s.slice (.included (lower.exactStart + inner.exactStart))
      (.excluded (lower.exactStart + outer.exactStop part.size)) = .ok smaller := by
  obtain ⟨⟨ordered, within⟩, rfl⟩ := (slice_eq_ok_iff short).mp cut
  have size : (Segment.mk (byteSlice s.bytes lower.exactStart (upper.exactStop s.size))).size =
      upper.exactStop s.size - lower.exactStart := byteSlice_length within
  rw [size]
  have shorter : upper.exactStop s.size - lower.exactStart ≤ Word.maxAllocation := by omega
  rw [slice_eq_ok_iff (by rwa [size]), size] at cutAgain
  obtain ⟨⟨innerOrdered, innerWithin⟩, rfl⟩ := cutAgain
  have stop : lower.exactStart + outer.exactStop (upper.exactStop s.size - lower.exactStart) ≤
      s.size := by omega
  refine (slice_eq_ok_iff short).mpr ⟨⟨Nat.add_le_add_left innerOrdered _, stop⟩, ?_⟩
  exact congrArg mk (byteSlice_within ordered innerWithin)

theorem compareTo_eq (short : s.size ≤ Word.maxAllocation) {other : List UInt8}
    (otherShort : other.length ≤ Word.maxAllocation) (offset otherOffset length : Nat) :
    s.compareTo other offset otherOffset length =
      if s.size < offset + length then .error (pastEnd offset length s.size)
      else if other.length < otherOffset + length then
        .error (pastEnd otherOffset length other.length)
      else .ok (compare (byteSlice s.bytes offset (offset + length))
        (byteSlice other otherOffset (otherOffset + length))) :=
  compareRanges_eq (Nat.lt_of_succ_lt (isWord_of_short short))
    (Nat.lt_of_succ_lt (isWord_of_short otherShort)) offset otherOffset length

theorem equalTo_eq (short : s.size ≤ Word.maxAllocation) {other : List UInt8}
    (otherShort : other.length ≤ Word.maxAllocation) (offset otherOffset length : Nat) :
    s.equalTo other offset otherOffset length =
      if s.size < offset + length then .error (pastEnd offset length s.size)
      else if other.length < otherOffset + length then
        .error (pastEnd otherOffset length other.length)
      else .ok (decide (byteSlice s.bytes offset (offset + length) =
        byteSlice other otherOffset (otherOffset + length))) := by
  rw [equalTo, compareTo_eq short otherShort]
  split
  · rfl
  split
  · rfl
  · refine congrArg Except.ok (Bool.eq_iff_iff.mpr ?_)
    rw [beq_iff_eq, decide_eq_true_iff, Std.compare_eq_iff_eq]

/-- An access is granted if and only if the exact ends of its ranges lie within the operands, and
reads their bytes. The fault of a refused access depends on the sizes and the arguments alone. -/
theorem accesses_exact (short : s.size ≤ Word.maxAllocation) :
    (∀ offset length, s.range offset length =
      if offset + length ≤ s.size then .ok (byteSlice s.bytes offset (offset + length))
      else .error (pastEnd offset length s.size)) ∧
    (∀ offset target, s.getInto offset target =
      if offset + target.length ≤ s.size then
        .ok (byteSlice s.bytes offset (offset + target.length))
      else .error (pastEnd offset target.length s.size)) ∧
    (∀ other : List UInt8, other.length ≤ Word.maxAllocation → ∀ offset otherOffset length,
      s.compareTo other offset otherOffset length =
        (if s.size < offset + length then .error (pastEnd offset length s.size)
        else if other.length < otherOffset + length then
          .error (pastEnd otherOffset length other.length)
        else .ok (compare (byteSlice s.bytes offset (offset + length))
          (byteSlice other otherOffset (otherOffset + length)))) ∧
      s.equalTo other offset otherOffset length =
        (if s.size < offset + length then .error (pastEnd offset length s.size)
        else if other.length < otherOffset + length then
          .error (pastEnd otherOffset length other.length)
        else .ok (decide (byteSlice s.bytes offset (offset + length) =
          byteSlice other otherOffset (otherOffset + length))))) ∧
    (∀ lower upper, s.slice lower upper =
      if lower.exactStart ≤ upper.exactStop s.size ∧ upper.exactStop s.size ≤ s.size then
        .ok ⟨byteSlice s.bytes lower.exactStart (upper.exactStop s.size)⟩
      else .error (sliceFault lower upper s.size)) ∧
    ∀ lower upper part, s.slice lower upper = .ok part →
      ∀ inner outer smaller, part.slice inner outer = .ok smaller →
        s.slice (.included (lower.exactStart + inner.exactStart))
          (.excluded (lower.exactStart + outer.exactStop part.size)) = .ok smaller := by
  refine ⟨range_eq short, fun offset target => range_eq short offset target.length, ?_,
    slice_eq short, ?_⟩
  · intro other otherShort offset otherOffset length
    exact ⟨compareTo_eq short otherShort offset otherOffset length,
      equalTo_eq short otherShort offset otherOffset length⟩
  · intro lower upper part cut inner outer smaller cutAgain
    exact slice_slice short cut cutAgain

theorem accesses_exact_saturated :
    let s : Segment := ⟨[0x68, 0x65, 0x6C, 0x6C, 0x6F]⟩
    s.size ≤ Word.maxAllocation ∧
      s.range 0xFFFFFFFFFFFFFFFF 5 = .error (.outOfBounds 0xFFFFFFFFFFFFFFFF 5) ∧
      s.slice (.excluded 0xFFFFFFFFFFFFFFFF) (.included 0xFFFFFFFFFFFFFFFF) =
        .error (.outOfBounds 0xFFFFFFFFFFFFFFFF 5) ∧
      s.slice (.excluded 0) (.included 3) = .ok ⟨[0x65, 0x6C, 0x6C]⟩ ∧
      s.slice (.included 2) (.excluded 4) = .ok ⟨[0x6C, 0x6C]⟩ ∧
      s.equalTo [0x6C, 0x6C, 0x6C] 2 1 2 = .ok true := by
  intro s
  have short : s.size ≤ Word.maxAllocation := by decide
  obtain ⟨range, -, compared, slice, nested⟩ := accesses_exact short
  have inner : s.slice (.excluded 0) (.included 3) = .ok ⟨[0x65, 0x6C, 0x6C]⟩ :=
    (slice _ _).trans rfl
  have past : s.slice (.excluded 0xFFFFFFFFFFFFFFFF) (.included 0xFFFFFFFFFFFFFFFF) =
      .error (.outOfBounds 0xFFFFFFFFFFFFFFFF 5) := by
    rw [slice, if_neg (by decide)]
    decide
  refine ⟨short, (range _ _).trans rfl, past, inner, ?_,
    (compared [0x6C, 0x6C, 0x6C] (by decide) 2 1 2).2.trans rfl⟩
  exact nested _ _ _ inner (.included 1) (.excluded 3) _ rfl

end Segment

end RowText
