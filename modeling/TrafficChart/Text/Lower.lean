import TrafficChart.Text.CapitalRuns
import TrafficChart.Text.CaseIgnorable
import TrafficChart.Text.Cased

/-!
# Lower case

The lower case of a text, by the rules of Unicode that hold in every language. It is taken
letter by letter, except that a capital sigma has a form of its own at the end of a word.
-/

namespace TrafficChart.Text

/-- The lower case of a character. The dotted capital I keeps its dot as a character of its
own. -/
def lowerChar (c : Char) : List Char :=
  if c.toNat < 0x80 then [c.toLower]
  else if c = 'İ' then ['i', '\u0307']
  else [(lowerInRuns? c).getD c]

/-- Whether the next character that is not passed over is a cased letter. -/
def meetsCased (cs : List Char) : Bool :=
  match cs.dropWhile isCaseIgnorable with
  | [] => false
  | c :: _ => isCased c

/-- Whether a place follows a letter of a word and precedes none. The characters before it are
given backwards. -/
def endsWord (before after : List Char) : Bool := meetsCased before && !meetsCased after

/-- The lower case of characters that come after others, which are given backwards. -/
def lowerAfter (before : List Char) : List Char → List Char
  | [] => []
  | c :: rest =>
    let here :=
      if c = 'Σ' then [if endsWord before rest then 'ς' else 'σ'] else lowerChar c
    here ++ lowerAfter (c :: before) rest

def lower (s : String) : String := String.ofList (lowerAfter [] s.toList)

end TrafficChart.Text
