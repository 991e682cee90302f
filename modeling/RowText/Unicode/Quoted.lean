import RowText.Unicode.CaseRun
import RowText.Unicode.Unprintable
import RowText.Unicode.GraphemeExtend
import RowText.Unicode.DefaultIgnorable

namespace RowText.Unicode

def attaches (c : Char) : Bool :=
  inRanges graphemeExtendRanges c.toNat && !inRanges graphemeExtendLetterRanges c.toNat

/-- Whether a character can stand for itself in a quoted text: it has a printed form, a display
shows it, and it does not change the look of the character before it. -/
def isPrintable (c : Char) : Bool :=
  !attaches c && !inRanges defaultIgnorableRanges c.toNat && !inRanges unprintableRanges c.toNat

def escapeCode (c : Char) : List Char :=
  ['\\', 'u', '\x7b'] ++ Nat.toDigits 16 c.toNat ++ ['\x7d']

def quoteChar (c : Char) : List Char :=
  if c = '\x00' then ['\\', '0']
  else if c = '\t' then ['\\', 't']
  else if c = '\r' then ['\\', 'r']
  else if c = '\n' then ['\\', 'n']
  else if c = '"' then ['\\', '"']
  else if c = '\\' then ['\\', '\\']
  else if isPrintable c then [c]
  else escapeCode c

def quote (text : String) : String :=
  String.ofList ('"' :: text.toList.flatMap quoteChar ++ ['"'])

end RowText.Unicode
