import RowText.RowString.Basic

namespace RowText.RowString

def appendParts (separator : Option RowString) : List UInt8 → List RowString → List UInt8
  | target, [] => target
  | target, part :: rest =>
    let target := match separator with
      | some separator => separator.copyInto target
      | none => target
    appendParts separator (part.copyInto target) rest

def join (separator : Option RowString) : List RowString → RowString
  | [] => empty
  | first :: rest => ofBytes (appendParts separator (first.copyInto []) rest)

def allPresent {α : Type} : List (Option α) → Option (List α)
  | [] => some []
  | none :: _ => none
  | some value :: rest => (allPresent rest).map (value :: ·)

def concat (parts : List (Option RowString)) : Option RowString :=
  (allPresent parts).map (join none)

def concatWith (separator : Option RowString) (parts : List (Option RowString)) :
    Option RowString :=
  separator.map fun separator => join (some separator) (parts.filterMap id)

end RowText.RowString
