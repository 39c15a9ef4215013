import TrafficChart.Text.GraphemeExtend
import TrafficChart.Text.Unprintable

/-!
# Quoted text

Text between double quotes, with escapes for the quote, the backslash and every character that
cannot be seen by itself.
-/

namespace TrafficChart.Text

/-- The Hangul fillers: letters that hold the place of a missing part and have no shape. -/
def fillerRanges : CodePoints := [(0x115F, 0x1160), (0x3164, 0x3164), (0xFFA0, 0xFFA0)]

/-- The halfwidth sound marks of Katakana. They extend the character before them, yet each has a
cell of its own. -/
def soundMarkRanges : CodePoints := [(0xFF9E, 0xFF9F)]

/-- Whether a character can be seen by itself: it has a shape, and the shape is not drawn into
the character before. -/
def standsAlone (c : Char) : Bool :=
  !isUnprintable c && !fillerRanges.has c && (!isExtending c || soundMarkRanges.has c)

/-- The written form of a character. A character that does not stand alone is written by its
letter after a backslash or, having none, by its code in braces. -/
def escape (c : Char) : List Char :=
  match c with
  | '"' => ['\\', '"']
  | '\\' => ['\\', '\\']
  | '\t' => ['\\', 't']
  | '\n' => ['\\', 'n']
  | '\r' => ['\\', 'r']
  | '\x00' => ['\\', '0']
  | c =>
    if standsAlone c then [c]
    else ['\\', 'u', '\x7b'] ++ Nat.toDigits 16 c.toNat ++ ['\x7d']

def quote (s : String) : String := String.ofList ('"' :: s.toList.flatMap escape ++ ['"'])

/-- Quoted texts, separated by commas, in brackets. -/
def quoteList (xs : List String) : String := "[" ++ ", ".intercalate (xs.map quote) ++ "]"

end TrafficChart.Text
