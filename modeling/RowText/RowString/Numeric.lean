import RowText.RowString.Trim
import RowText.Number.Integer
import RowText.Number.Binary
import RowText.Decimal.Parse

namespace RowText.RowString

def toInteger (s : RowString) (w : IntWidth) : Except Error (Option Int) :=
  parseIntegerAs w s.bytes

def castDecimal (s : RowString) (type : DecimalType) : Checked (Option Decimal) :=
  Decimal.cast s.bytes type

def trueWords : List String := ["t", "true", "y", "yes", "1"]

def falseWords : List String := ["f", "false", "n", "no", "0"]

def truthOf? (word : List UInt8) : Option Bool :=
  let word := lowerAscii word
  if trueWords.any (Utf8.encodeText · == word) then some true
  else if falseWords.any (Utf8.encodeText · == word) then some false
  else none

def toBoolean (s : RowString) : Option Bool := truthOf? s.trim.bytes

def toFloat (s : RowString) (f : BinaryFormat) : Option Nat :=
  parseFloat? f s.trim.bytes

end RowText.RowString
