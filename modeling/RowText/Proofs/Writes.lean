import RowText.Proofs.KeyOrder

/-!
# Writes to a buffer

A write is completed if its range lies within the buffer, and is refused without a trace otherwise
(`Write.run_eq`). After any run of writes to a zeroed buffer, each byte is the one that the last
completed write over it put there (`Buffer.last_write_wins`). Writing a key changes its window, all
of it, and nothing else (`Buffer.putKey_window`).
-/

namespace RowText

theorem overwrite_getElem? {bytes data : List UInt8} {offset : Nat}
    (within : offset + data.length ≤ bytes.length) (index : Nat) :
    (overwrite bytes offset data)[index]? =
      if index < offset then bytes[index]? else data[index - offset]?.or bytes[index]? := by
  have front : (bytes.take offset).length = offset := List.length_take_of_le (by omega)
  rw [overwrite, List.append_assoc]
  by_cases before : index < offset
  · rw [if_pos before, List.getElem?_append_left (by omega), List.getElem?_take_of_lt before]
  · rw [if_neg before, List.getElem?_append_right (by omega), front]
    by_cases inside : index - offset < data.length
    · rw [List.getElem?_append_left inside, List.getElem?_eq_getElem inside, Option.some_or]
    · have reached : offset + data.length + (index - offset - data.length) = index := by omega
      rw [List.getElem?_append_right (by omega), List.getElem?_drop, reached,
        List.getElem?_eq_none (Nat.le_of_not_lt inside), Option.none_or]

namespace Buffer

variable {b : Buffer} {offset width : Nat}

theorem put_refused {data : List UInt8} (past : b.size < offset + data.length) :
    b.put offset data = ⟨.error (.outOfBounds (Word.addSat offset data.length) b.size), b⟩ := by
  rw [put, checkRange_error past]

theorem putByte_eq {index : Nat} (inside : index < b.size) (value : UInt8) :
    b.putByte index value = ⟨.ok (), ⟨overwrite b.bytes index [value]⟩⟩ := by
  have placed := List.set_eq_take_append_cons_drop (l := b.bytes) (i := index) (a := value)
  rw [if_pos (show index < b.bytes.length from inside)] at placed
  rw [putByte, if_pos inside, placed, overwrite, List.append_assoc, List.singleton_append,
    List.length_singleton]

theorem fill_eq (isWord : offset + width < Word.limit) (within : offset + width ≤ b.size)
    (value : UInt8) :
    b.fill offset width value =
      ⟨.ok (), ⟨overwrite b.bytes offset (List.replicate width value)⟩⟩ := by
  rw [fill, checkRange_ok isWord within]

theorem fill_refused (past : b.size < offset + width) (value : UInt8) :
    b.fill offset width value = ⟨.error (.outOfBounds (Word.addSat offset width) b.size), b⟩ := by
  rw [fill, checkRange_error past]

theorem putKey_refused (past : b.size < offset + width) (s : RowString) :
    b.putKey s offset width = ⟨.error (.outOfBounds (Word.addSat offset width) b.size), b⟩ := by
  rw [putKey_eq_andThen, fill_refused past]
  rfl

end Buffer

inductive Write
  | put (offset : Nat) (data : List UInt8)
  | putByte (index : Nat) (value : UInt8)
  | fill (offset length : Nat) (value : UInt8)
  | putKey (s : RowString) (offset width : Nat)

namespace Write

def run (b : Buffer) : Write → Written
  | put offset data => b.put offset data
  | putByte index value => b.putByte index value
  | fill offset length value => b.fill offset length value
  | putKey s offset width => b.putKey s offset width

def WellFormed : Write → Prop
  | putKey s _ _ => s.WellFormed
  | _ => True

def start : Write → Nat
  | put offset _ => offset
  | putByte index _ => index
  | fill offset _ _ => offset
  | putKey _ offset _ => offset

def width : Write → Nat
  | put _ data => data.length
  | putByte _ _ => 1
  | fill _ length _ => length
  | putKey _ _ width => width

def data : Write → List UInt8
  | put _ data => data
  | putByte _ value => [value]
  | fill _ length value => List.replicate length value
  | putKey s _ width => s.content.takeD width keyPad

def refusedIndex : Write → Nat
  | putByte index _ => index
  | w => Word.addSat w.start w.width

@[simp] theorem data_length (w : Write) : w.data.length = w.width := by
  cases w with
  | put offset data => rfl
  | putByte index value => rfl
  | fill offset length value => exact List.length_replicate
  | putKey s offset width => exact List.takeD_length ..

theorem run_eq {w : Write} {b : Buffer} (wellFormed : w.WellFormed)
    (isWord : b.size < Word.limit) :
    w.run b =
      if w.start + w.width ≤ b.size then ⟨.ok (), ⟨overwrite b.bytes w.start w.data⟩⟩
      else ⟨.error (.outOfBounds w.refusedIndex b.size), b⟩ := by
  by_cases within : w.start + w.width ≤ b.size
  · rw [if_pos within]
    have stopIsWord : w.start + w.width < Word.limit := Nat.lt_of_le_of_lt within isWord
    cases w with
    | put offset data => exact Buffer.put_eq stopIsWord within
    | putByte index value => exact Buffer.putByte_eq within value
    | fill offset length value => exact Buffer.fill_eq stopIsWord within value
    | putKey s offset width => exact Buffer.putKey_of_room wellFormed ⟨isWord, within⟩
  · rw [if_neg within]
    have past : b.size < w.start + w.width := Nat.lt_of_not_le within
    cases w with
    | put offset data => exact Buffer.put_refused past
    | putByte index value => exact if_neg within
    | fill offset length value => exact Buffer.fill_refused past value
    | putKey s offset width => exact Buffer.putKey_refused past s

theorem run_outcome {w : Write} {b : Buffer} (wellFormed : w.WellFormed)
    (isWord : b.size < Word.limit) :
    (w.start + w.width ≤ b.size → (w.run b).outcome = .ok ()) ∧
      (b.size < w.start + w.width →
        (w.run b).outcome = .error (.outOfBounds w.refusedIndex b.size) ∧ (w.run b).buffer = b) := by
  rw [run_eq wellFormed isWord]
  constructor
  · intro within
    rw [if_pos within]
  · intro past
    rw [if_neg (Nat.not_le_of_lt past)]
    exact ⟨rfl, rfl⟩

def byte? (w : Write) (capacity index : Nat) : Option UInt8 :=
  if w.start + w.width ≤ capacity ∧ w.start ≤ index then w.data[index - w.start]? else none

theorem run_size {w : Write} {b : Buffer} (wellFormed : w.WellFormed)
    (isWord : b.size < Word.limit) : (w.run b).buffer.size = b.size := by
  rw [run_eq wellFormed isWord]
  split
  next within => exact overwrite_length (by rwa [w.data_length])
  next => rfl

theorem run_getElem? {w : Write} {b : Buffer} (wellFormed : w.WellFormed)
    (isWord : b.size < Word.limit) (index : Nat) :
    (w.run b).buffer.bytes[index]? = (w.byte? b.size index).or b.bytes[index]? := by
  rw [run_eq wellFormed isWord, byte?]
  by_cases within : w.start + w.width ≤ b.size
  · rw [if_pos within, overwrite_getElem? (by rwa [w.data_length])]
    by_cases before : index < w.start
    · rw [if_pos before, if_neg (by omega), Option.none_or]
    · rw [if_neg before, if_pos ⟨within, Nat.le_of_not_lt before⟩]
  · rw [if_neg within, if_neg fun covered => within covered.1, Option.none_or]

end Write

def lastWritten (capacity : Nat) (writes : List Write) (index : Nat) : UInt8 :=
  (writes.reverse.findSome? fun w => w.byte? capacity index).getD 0

namespace Buffer

def after (b : Buffer) (writes : List Write) : Buffer :=
  writes.foldl (fun b w => (w.run b).buffer) b

variable {b : Buffer} {writes : List Write}

theorem after_size (fine : ∀ w ∈ writes, w.WellFormed) (isWord : b.size < Word.limit) :
    (b.after writes).size = b.size := by
  induction writes generalizing b with
  | nil => rfl
  | cons w rest ih =>
      obtain ⟨first, others⟩ := List.forall_mem_cons.mp fine
      have size := Write.run_size first isWord
      exact (ih others (size ▸ isWord)).trans size

theorem after_getElem? (fine : ∀ w ∈ writes, w.WellFormed) (isWord : b.size < Word.limit)
    (index : Nat) :
    (b.after writes).bytes[index]? =
      (writes.reverse.findSome? fun w => w.byte? b.size index).or b.bytes[index]? := by
  induction writes generalizing b with
  | nil => rfl
  | cons w rest ih =>
      obtain ⟨first, others⟩ := List.forall_mem_cons.mp fine
      -- What the first write leaves shows wherever the others do not reach.
      have size := Write.run_size first isWord
      have later := ih others (size ▸ isWord)
      rw [size, Write.run_getElem? first isWord] at later
      rw [List.reverse_cons, List.findSome?_append, Option.or_assoc, List.findSome?_singleton]
      exact later

theorem zeroed_eq_ok_iff {capacity : Nat} :
    zeroed capacity = .ok b ↔
      capacity ≤ Word.maxAllocation ∧ b = ⟨List.replicate capacity 0⟩ := by
  unfold zeroed allocate
  by_cases small : capacity ≤ Word.maxAllocation
  · rw [if_pos small, and_iff_right small]
    exact ⟨fun made => by cases made; rfl, fun same => by rw [same]; rfl⟩
  · rw [if_neg small]
    exact ⟨nofun, fun made => absurd made.1 small⟩

theorem after_bytes {capacity : Nat} (made : zeroed capacity = .ok b)
    (fine : ∀ w ∈ writes, w.WellFormed) :
    (b.after writes).bytes = (List.range capacity).map (lastWritten capacity writes) := by
  obtain ⟨small, rfl⟩ := zeroed_eq_ok_iff.mp made
  have size : (Buffer.mk (List.replicate capacity 0)).size = capacity := List.length_replicate
  have isWord : (Buffer.mk (List.replicate capacity 0)).size < Word.limit := by
    rw [size]
    exact Nat.lt_of_le_of_lt small (by decide)
  apply List.ext_getElem?
  intro index
  by_cases inside : index < capacity
  · rw [after_getElem? fine isWord, size, List.getElem?_map, List.getElem?_replicate_of_lt inside,
      List.getElem?_range inside, Option.or_some, Option.map_some, lastWritten]
  · have length : (Buffer.after _ writes).bytes.length = capacity :=
      (after_size fine isWord).trans size
    rw [List.getElem?_eq_none (by omega), List.getElem?_eq_none (by simpa using inside)]

theorem get_of_bytes {capacity : Nat} {byteAt : Nat → UInt8}
    (bytes : b.bytes = (List.range capacity).map byteAt) (index : Nat) :
    b.get index =
      if index < capacity then .ok (byteAt index) else .error (.outOfBounds index capacity) := by
  have size : b.size = capacity := by rw [Buffer.size, bytes, List.length_map, List.length_range]
  rw [get, size, bytes, List.getElem?_map]
  by_cases inside : index < capacity
  · rw [if_pos inside, List.getElem?_range inside]
    rfl
  · rw [if_neg inside, List.getElem?_eq_none (by simpa using inside)]
    rfl

theorem compareTo_of_bytes {capacity : Nat} {byteAt : Nat → UInt8}
    (bytes : b.bytes = (List.range capacity).map byteAt) (isWord : capacity < Word.limit)
    {other : List UInt8} (otherIsWord : other.length < Word.limit)
    {offset otherOffset length : Nat} (within : offset + length ≤ capacity)
    (otherWithin : otherOffset + length ≤ other.length) :
    b.compareTo other offset otherOffset length =
      .ok (compare ((List.range' offset length).map byteAt)
        ((other.drop otherOffset).take length)) := by
  have size : b.bytes.length = capacity := by rw [bytes, List.length_map, List.length_range]
  have range : ((List.range capacity).drop offset).take length = List.range' offset length := by
    rw [List.range_eq_range', List.drop_range', List.take_range'_of_length_ge (by omega),
      Nat.zero_add, Nat.mul_one]
  rw [compareTo, compareRanges_eq (size.trans_lt isWord) otherIsWord, size,
    if_neg (Nat.not_lt_of_le within), if_neg (Nat.not_lt_of_le otherWithin), byteSlice_add,
    byteSlice_add, bytes, ← List.map_drop, ← List.map_take, range]

/-- Each write to a zeroed buffer is made as a whole or refused without a trace, and each byte is
the one that the last completed write over it put there, however it is read. -/
theorem last_write_wins {capacity : Nat} {made : Buffer} (allocated : zeroed capacity = .ok made)
    {writes : List Write} (fine : ∀ w ∈ writes, w.WellFormed) :
    let b := made.after writes
    let last := lastWritten capacity writes
    b.size = capacity ∧
      (∀ w : Write, w.WellFormed →
        (w.start + w.width ≤ capacity → (w.run b).outcome = .ok ()) ∧
        (capacity < w.start + w.width →
          (w.run b).outcome = .error (.outOfBounds w.refusedIndex capacity) ∧
            (w.run b).buffer = b)) ∧
      (∀ index, b.get index =
        if index < capacity then .ok (last index) else .error (.outOfBounds index capacity)) ∧
      (∀ (other : List UInt8) (offset otherOffset length : Nat), other.length < Word.limit →
        offset + length ≤ capacity → otherOffset + length ≤ other.length →
          b.compareTo other offset otherOffset length =
            .ok (compare ((List.range' offset length).map last)
              ((other.drop otherOffset).take length))) ∧
      b.freeze.bytes = (List.range capacity).map last := by
  intro b last
  have bytes : b.bytes = (List.range capacity).map last := after_bytes allocated fine
  have size : b.size = capacity := by rw [Buffer.size, bytes, List.length_map, List.length_range]
  have isWord : capacity < Word.limit :=
    Nat.lt_of_le_of_lt (zeroed_eq_ok_iff.mp allocated).1 (by decide)
  refine ⟨size, ?_, get_of_bytes bytes, ?_, bytes⟩
  · intro w wellFormed
    have outcome := Write.run_outcome wellFormed (show b.size < Word.limit from size.symm ▸ isWord)
    rwa [size] at outcome
  · intro other offset otherOffset length otherIsWord within otherWithin
    exact compareTo_of_bytes bytes isWord otherIsWord within otherWithin

def overlappingWrites : List Write :=
  [.fill 0 4 0xAA, .putKey RowString.straddling 1 4, .put 0xFFFFFFFFFFFFFFFF [0x01, 0x02],
    .putByte 2 0x7A]

theorem last_write_wins_overlapping :
    zeroed 6 = .ok ⟨List.replicate 6 0⟩ ∧ (∀ w ∈ overlappingWrites, w.WellFormed) ∧
      ((Buffer.mk (List.replicate 6 0)).after overlappingWrites).freeze.bytes =
        [0xAA, 0x31, 0x7A, 0x35, 0x00, 0x00] ∧
      ((Write.putKey RowString.straddling 3 4).run
        ((Buffer.mk (List.replicate 6 0)).after overlappingWrites)).outcome =
          .error (.outOfBounds 7 6) := by
  have fine : ∀ w ∈ overlappingWrites, w.WellFormed := by
    simp [overlappingWrites, Write.WellFormed, RowString.straddling_wellFormed]
  have allocated : zeroed 6 = .ok ⟨List.replicate 6 0⟩ := rfl
  obtain ⟨-, outcomes, -, -, frozen⟩ := last_write_wins allocated fine
  refine ⟨allocated, fine, frozen.trans (by decide), ?_⟩
  have key : (Write.putKey RowString.straddling 3 4).WellFormed := RowString.straddling_wellFormed
  exact ((outcomes _ key).2 (by decide)).1

theorem takeD_getElem? {xs : List UInt8} {index : Nat} (inside : index < width) (pad : UInt8) :
    (xs.takeD width pad)[index]? = some (xs[index]?.getD pad) := by
  rw [takeD_eq_append]
  by_cases short : index < xs.length
  · rw [List.getElem?_append_left (by rw [List.length_take]; omega),
      List.getElem?_take_of_lt inside, List.getElem?_eq_getElem short, Option.getD_some]
  · rw [List.getElem?_append_right (by rw [List.length_take]; omega),
      List.getElem?_replicate_of_lt (by rw [List.length_take]; omega),
      List.getElem?_eq_none (Nat.le_of_not_lt short), Option.getD_none]

variable {s : RowString}

theorem putKey_outcome (wellFormed : s.WellFormed) (isWord : b.size < Word.limit) (fault : Fault) :
    (b.putKey s offset width).outcome = .error fault ↔
      b.size < offset + width ∧ fault = .outOfBounds (Word.addSat offset width) b.size := by
  by_cases past : b.size < offset + width
  · rw [putKey_refused past, and_iff_right past, Except.error.injEq, eq_comm]
  · rw [putKey_of_room wellFormed ⟨isWord, Nat.not_lt.mp past⟩]
    exact iff_of_false nofun fun given => past given.1

theorem putKey_getElem? (wellFormed : s.WellFormed) (room : b.Room offset width) (index : Nat) :
    (b.putKey s offset width).buffer.bytes[index]? =
      if offset ≤ index ∧ index < offset + width then some (s.content[index - offset]?.getD keyPad)
      else b.bytes[index]? := by
  have written : (b.putKey s offset width).buffer.bytes[index]? =
      (if offset + width ≤ b.size ∧ offset ≤ index then
        (s.content.takeD width keyPad)[index - offset]? else none).or b.bytes[index]? :=
    (Write.putKey s offset width).run_getElem? wellFormed room.isWord index
  rw [written]
  by_cases before : index < offset
  · rw [if_neg (by omega), if_neg (by omega), Option.none_or]
  rw [if_pos ⟨room.within, Nat.le_of_not_lt before⟩]
  by_cases inside : index < offset + width
  · rw [if_pos ⟨Nat.le_of_not_lt before, inside⟩, takeD_getElem? (by omega), Option.some_or]
  · have behind : (s.content.takeD width keyPad).length ≤ index - offset := by
      rw [List.takeD_length]
      omega
    rw [if_neg fun window => inside window.2, List.getElem?_eq_none behind, Option.none_or]

/-- A key is refused without a trace if its window does not lie within the buffer. Otherwise the
window holds the first bytes of the string, and zeros behind a shorter one, and every byte outside
of it is the one that was there before. -/
theorem putKey_window (wellFormed : s.WellFormed) (isWord : b.size < Word.limit)
    (offset width : Nat) :
    let written := b.putKey s offset width
    (∀ fault, written.outcome = .error fault ↔
      b.size < offset + width ∧ fault = .outOfBounds (Word.addSat offset width) b.size) ∧
    (b.size < offset + width → written.buffer = b) ∧
    (offset + width ≤ b.size → written.outcome = .ok () ∧ written.buffer.size = b.size ∧
      (∀ i, i < min s.length width → written.buffer.bytes[offset + i]? = s.content[i]?) ∧
      (∀ i, s.length ≤ i → i < width → written.buffer.bytes[offset + i]? = some 0x00) ∧
      ∀ index, index < offset ∨ offset + width ≤ index →
        written.buffer.bytes[index]? = b.bytes[index]?) := by
  intro written
  refine ⟨putKey_outcome wellFormed isWord, fun past => ?_, fun within => ?_⟩
  · exact congrArg Written.buffer (putKey_refused past s)
  have bytes := putKey_getElem? wellFormed (b := b) ⟨isWord, within⟩
  refine ⟨?_, (Write.putKey s offset width).run_size wellFormed isWord, ?_, ?_, ?_⟩
  · exact congrArg Written.outcome (putKey_of_room wellFormed ⟨isWord, within⟩)
  · intro i inside
    rw [RowString.length_eq wellFormed] at inside
    rw [bytes, if_pos (by omega), Nat.add_sub_cancel_left, List.getElem?_eq_getElem (by omega),
      Option.getD_some]
  · intro i past inside
    rw [RowString.length_eq wellFormed] at past
    rw [bytes, if_pos (by omega), Nat.add_sub_cancel_left, List.getElem?_eq_none past]
    rfl
  · intro index outside
    rw [bytes, if_neg (by omega)]

def ones : Buffer := ⟨[0xFF, 0xFF, 0xFF, 0xFF, 0xFF]⟩

theorem putKey_window_straddling :
    RowString.straddling.WellFormed ∧ ones.size < Word.limit ∧
      (ones.putKey .straddling 0 4).buffer.bytes[2]? = some 0x35 ∧
      (ones.putKey .straddling 0 4).buffer.bytes[3]? = some 0x00 ∧
      (ones.putKey .straddling 0 4).buffer.bytes[4]? = some 0xFF ∧
      (ones.putKey .straddling 3 2).buffer.bytes[4]? = some 0x2E ∧
      (ones.putKey .straddling 3 3).outcome = .error (.outOfBounds 6 5) ∧
      (ones.putKey .straddling 3 3).buffer = ones := by
  have wellFormed := RowString.straddling_wellFormed
  have isWord : ones.size < Word.limit := by decide
  have ⟨_, _, wide⟩ := putKey_window wellFormed isWord 0 4
  have ⟨_, _, narrow⟩ := putKey_window wellFormed isWord 3 2
  have ⟨refused, unchanged, _⟩ := putKey_window wellFormed isWord 3 3
  have ⟨_, _, wideBytes, pads, others⟩ := wide (by decide)
  have ⟨_, _, narrowBytes, _, _⟩ := narrow (by decide)
  exact ⟨wellFormed, isWord, wideBytes 2 (by decide), pads 3 (by decide) (by decide),
    others 4 (by decide), narrowBytes 1 (by decide), (refused _).mpr ⟨by decide, rfl⟩,
    unchanged (by decide)⟩

end Buffer

end RowText
