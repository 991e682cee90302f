import RowText.RowString.Basic

namespace RowText

def findBytes? (needle : List UInt8) : List UInt8 → Option Nat
  | [] => if needle.isEmpty then some 0 else none
  | byte :: rest =>
    if needle.isPrefixOf (byte :: rest) then some 0
    else (findBytes? needle rest).map (· + 1)

theorem findBytes?_bound {needle bytes : List UInt8} {offset : Nat}
    (found : findBytes? needle bytes = some offset) : offset + needle.length ≤ bytes.length := by
  induction bytes generalizing offset with
  | nil =>
      simp only [findBytes?, Option.ite_none_right_eq_some, List.isEmpty_iff,
        Option.some.injEq] at found
      simp [found.1, ← found.2]
  | cons byte rest ih =>
      by_cases atFront : needle.isPrefixOf (byte :: rest)
      · have bound := (List.isPrefixOf_iff_prefix.mp atFront).length_le
        simp only [findBytes?, atFront, if_true, Option.some.injEq] at found
        omega
      · simp only [findBytes?, atFront] at found
        obtain ⟨i, hi, rfl⟩ := Option.map_eq_some_iff.mp found
        have bound := ih hi
        simp only [List.length_cons]
        omega

def matchAtChar? (needle bytes : List UInt8) (index : Nat) : Option Nat :=
  let candidate := bytes.take needle.length
  if candidate.length < needle.length then none
  else if candidate == needle then some index
  else
    match bytes with
    | [] => none
    | lead :: rest => matchAtChar? needle (rest.drop (Utf8.leadWidth lead - 1)) (index + 1)
termination_by bytes.length
decreasing_by simp only [List.length_drop, List.length_cons]; omega

def skipChars? : Nat → List UInt8 → Option (List UInt8)
  | 0, bytes => some bytes
  | _ + 1, [] => none
  | count + 1, lead :: rest => skipChars? count (rest.drop (Utf8.leadWidth lead - 1))

namespace RowString

def contains (s needle : RowString) : Bool :=
  needle.isEmpty || (findBytes? needle.bytes s.bytes).isSome

def startsWith (s start : RowString) : Bool :=
  start.length ≤ s.length && start.bytes.isPrefixOf s.bytes

def endsWith (s ending : RowString) : Bool :=
  ending.length ≤ s.length && ending.bytes.isSuffixOf s.bytes

def indexOf (s needle : RowString) (start : Nat) : Option Nat :=
  match skipChars? start s.bytes with
  | none => none
  | some rest => if needle.isEmpty then some start else matchAtChar? needle.bytes rest start

end RowString

end RowText
