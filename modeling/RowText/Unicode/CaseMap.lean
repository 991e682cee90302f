import RowText.Unicode.UpperTable
import RowText.Unicode.LowerTable
import RowText.Unicode.Cased
import RowText.Unicode.CaseIgnorable

namespace RowText.Unicode

def mapChar (expansions : List (Nat × List Nat)) (runs : List CaseRun) (c : Char) : List Char :=
  match expansions.lookup c.toNat with
  | some codes => codes.map Char.ofNat
  | none => [Char.ofNat (shiftCode runs c.toNat)]

def upperChar (c : Char) : List Char := mapChar upperExpansions upperRuns c

def lowerChar (c : Char) : List Char := mapChar lowerExpansions lowerRuns c

def isCased (c : Char) : Bool := inRanges casedRanges c.toNat

def isCaseIgnorable (c : Char) : Bool := inRanges caseIgnorableRanges c.toNat

def meetsCased (cs : List Char) : Bool :=
  match cs.dropWhile isCaseIgnorable with
  | c :: _ => isCased c
  | [] => false

/-- The lower case of a capital sigma, by the characters before it, nearest first, and after it. -/
def lowerSigma (before after : List Char) : Char :=
  if meetsCased before && !meetsCased after then '\u03C2' else '\u03C3'

def lowerFrom (before : List Char) : List Char → List Char
  | [] => []
  | c :: rest =>
    let image := if c = '\u03A3' then [lowerSigma before rest] else lowerChar c
    image ++ lowerFrom (c :: before) rest

def upper (cs : List Char) : List Char := cs.flatMap upperChar

def lower (cs : List Char) : List Char := lowerFrom [] cs

end RowText.Unicode
