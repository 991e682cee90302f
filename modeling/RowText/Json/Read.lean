import RowText.Json.Text

namespace RowText

inductive Json
  | null
  | bool (value : Bool)
  | number (negative : Bool) (whole : Nat) (isWhole : Bool)
  | string (text : Option (List Char))
  | array (items : List Json)
  | object (members : List (Option (List Char) × Json))

namespace Json

def isSpace (c : Char) : Bool := c == ' ' || c == '\t' || c == '\n' || c == '\r'

def skipSpace (cs : List Char) : List Char := cs.dropWhile isSpace

def isDecimalDigit (c : Char) : Bool := '0' ≤ c && c ≤ '9'

def digitsValue (digits : List Char) : Nat :=
  digits.foldl (fun value c => value * 10 + (c.toNat - '0'.toNat)) 0

def readDigits? (cs : List Char) : Option (List Char × List Char) :=
  let digits := cs.takeWhile isDecimalDigit
  if digits.isEmpty then none else some (digits, cs.dropWhile isDecimalDigit)

def skipFraction? : List Char → Option (Bool × List Char)
  | '.' :: rest => (readDigits? rest).map fun (_, rest) => (true, rest)
  | cs => some (false, cs)

def skipExponent? : List Char → Option (Bool × List Char)
  | mark :: rest =>
    if mark = 'e' ∨ mark = 'E' then
      let rest := match rest with
        | '+' :: rest => rest
        | '-' :: rest => rest
        | rest => rest
      (readDigits? rest).map fun (_, rest) => (true, rest)
    else some (false, mark :: rest)
  | [] => some (false, [])

def readNumber? (negative : Bool) (cs : List Char) : Option (Json × List Char) := do
  let (whole, rest) ← readDigits? cs
  if whole.head? = some '0' ∧ 1 < whole.length then none
  let (hasFraction, rest) ← skipFraction? rest
  let (hasExponent, rest) ← skipExponent? rest
  return (number negative (digitsValue whole) (!hasFraction && !hasExponent), rest)

def readWord? (word : List Char) (cs : List Char) : Option (List Char) :=
  if word.isPrefixOf cs then some (cs.drop word.length) else none

def readString? (cs : List Char) : Option (Option (List Char) × List Char) :=
  (readCodes? cs).map fun (codes, rest) => (joinCodes? codes, rest)

mutual

def readValue? : (depth : Nat) → List Char → Option (Json × List Char)
  | 0, _ => none
  | depth + 1, cs =>
    match skipSpace cs with
    | '"' :: rest => (readString? rest).map fun (text, rest) => (string text, rest)
    | '-' :: rest => readNumber? true rest
    | '[' :: rest =>
      match skipSpace rest with
      | ']' :: rest => some (array [], rest)
      | rest => (readItems? depth rest).map fun (items, rest) => (array items, rest)
    | '\x7b' :: rest =>
      match skipSpace rest with
      | '\x7d' :: rest => some (object [], rest)
      | rest => (readMembers? depth rest).map fun (members, rest) => (object members, rest)
    | 'n' :: rest => (readWord? ['u', 'l', 'l'] rest).map fun rest => (null, rest)
    | 't' :: rest => (readWord? ['r', 'u', 'e'] rest).map fun rest => (bool true, rest)
    | 'f' :: rest => (readWord? ['a', 'l', 's', 'e'] rest).map fun rest => (bool false, rest)
    | rest => readNumber? false rest

def readItems? : (depth : Nat) → List Char → Option (List Json × List Char)
  | 0, _ => none
  | depth + 1, cs => do
    let (item, rest) ← readValue? depth cs
    match skipSpace rest with
    | ',' :: rest =>
      let (items, rest) ← readItems? depth rest
      return (item :: items, rest)
    | ']' :: rest => return ([item], rest)
    | _ => none

def readMembers? :
    (depth : Nat) → List Char → Option (List (Option (List Char) × Json) × List Char)
  | 0, _ => none
  | depth + 1, cs => do
    match skipSpace cs with
    | '"' :: rest =>
      let (key, rest) ← readString? rest
      match skipSpace rest with
      | ':' :: rest =>
        let (value, rest) ← readValue? depth rest
        match skipSpace rest with
        | ',' :: rest =>
          let (members, rest) ← readMembers? depth rest
          return ((key, value) :: members, rest)
        | '\x7d' :: rest => return ([(key, value)], rest)
        | _ => none
      | _ => none
    | _ => none

end

def read? (cs : List Char) : Option Json := do
  let (value, rest) ← readValue? (cs.length + 1) cs
  if (skipSpace rest).isEmpty then return value else none

def text? : Json → Option (List Char)
  | string text => text
  | _ => none

def integer? : Json → Option Int
  | number negative whole true => some (if negative then -whole else whole)
  | _ => none

def byte? : Json → Option UInt8
  | number false whole true => if whole < 256 then some (.ofNat whole) else none
  | _ => none

def valuesOf (members : List (Option (List Char) × Json)) (key : String) : List Json :=
  members.filterMap fun (name, value) => if name = some key.toList then some value else none

def member? (members : List (Option (List Char) × Json)) (key : String) : Option Json :=
  if members.all (·.1.isSome) then
    match valuesOf members key with
    | [value] => some value
    | _ => none
  else none

def fields? (first second : String) : Json → Option (Json × Json)
  | array [a, b] => some (a, b)
  | object members => do return (← member? members first, ← member? members second)
  | _ => none

end Json

end RowText
