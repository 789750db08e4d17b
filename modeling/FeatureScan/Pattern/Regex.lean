import FeatureScan.Pattern.CharSet

/-!
Regular expressions and what they match. A match is a pair of positions in a text; a
position lies between two characters, and an expression may look at the characters on
both sides of a position without taking them.
-/

namespace FeatureScan
namespace Pattern

/-- Conditions on a position alone. What counts as a word is given by the characters that
may stand in one. -/
inductive Anchor where
  | textStart
  | textEnd
  | lineStart
  | lineEnd
  /-- As `lineStart`, where a carriage return, a line feed and the two together each
  end one line. -/
  | anyLineStart
  | anyLineEnd
  | wordEdge (letters : CharSet)
  | notWordEdge (letters : CharSet)
  | wordStart (letters : CharSet)
  | wordEnd (letters : CharSet)
  /-- No word character lies before. -/
  | wordStartHalf (letters : CharSet)
  /-- No word character lies behind. -/
  | wordEndHalf (letters : CharSet)
  deriving Repr, DecidableEq

inductive Regex where
  | empty
  | chars (set : CharSet)
  | look (anchor : Anchor)
  | seq (first second : Regex)
  /-- The first branch is preferred. -/
  | alt (first second : Regex)
  /-- One or more times; a greedy repetition prefers to go on. -/
  | plus (greedy : Bool) (body : Regex)
  deriving Repr, DecidableEq

def behind (set : CharSet) (text : Array Char) (i : Nat) : Bool :=
  match i with
  | 0 => false
  | k + 1 => text[k]?.any set.contains

def ahead (set : CharSet) (text : Array Char) (i : Nat) : Bool :=
  text[i]?.any set.contains

namespace Anchor

def holds (text : Array Char) (i : Nat) : Anchor → Bool
  | .textStart => i == 0
  | .textEnd => i == text.size
  | .lineStart => i == 0 || behind (.single '\n') text i
  | .lineEnd => i == text.size || ahead (.single '\n') text i
  | .anyLineStart =>
      i == 0 || behind (.single '\n') text i ||
        (behind (.single '\r') text i && !ahead (.single '\n') text i)
  | .anyLineEnd =>
      i == text.size || ahead (.single '\r') text i ||
        (ahead (.single '\n') text i && !behind (.single '\r') text i)
  | .wordEdge w => behind w text i != ahead w text i
  | .notWordEdge w => behind w text i == ahead w text i
  | .wordStart w => !behind w text i && ahead w text i
  | .wordEnd w => behind w text i && !ahead w text i
  | .wordStartHalf w => !behind w text i
  | .wordEndHalf w => !ahead w text i

end Anchor

namespace Regex

/-- `Matches text r i j` says that `r` matches the text between `i` and `j`. -/
inductive Matches (text : Array Char) : Regex → Nat → Nat → Prop where
  | empty (i) : Matches text .empty i i
  | chars {set c i} (at_i : text[i]? = some c) (mem : set.contains c = true) :
      Matches text (.chars set) i (i + 1)
  | look {anchor i} (here : anchor.holds text i = true) : Matches text (.look anchor) i i
  | seq {r s i j k} (first : Matches text r i j) (second : Matches text s j k) :
      Matches text (.seq r s) i k
  | altFirst {r s i j} (first : Matches text r i j) : Matches text (.alt r s) i j
  | altSecond {r s i j} (second : Matches text s i j) : Matches text (.alt r s) i j
  | once {greedy r i j} (body : Matches text r i j) : Matches text (.plus greedy r) i j
  | again {greedy r i j k} (body : Matches text r i j) (more : Matches text (.plus greedy r) j k) :
      Matches text (.plus greedy r) i k

def fail : Regex := .chars .empty

def option (greedy : Bool) (r : Regex) : Regex :=
  if greedy then .alt r .empty else .alt .empty r

def many (greedy : Bool) (r : Regex) : Regex := option greedy (.plus greedy r)

def seqAll : List Regex → Regex
  | [] => .empty
  | [r] => r
  | r :: rest => .seq r (seqAll rest)

def altAll : List Regex → Regex
  | [] => .fail
  | [r] => r
  | r :: rest => .alt r (altAll rest)

def upTo (greedy : Bool) (r : Regex) : Nat → Regex
  | 0 => .empty
  | n + 1 => option greedy (.seq r (upTo greedy r n))

/-- At least `least` times, and at most `most` times when there is such a bound. -/
def times (greedy : Bool) (r : Regex) (least : Nat) (most : Option Nat) : Regex :=
  match most, least with
  | some most, _ => seqAll (List.replicate least r ++
      if most ≤ least then [] else [upTo greedy r (most - least)])
  | none, 0 => many greedy r
  | none, n + 1 => seqAll (List.replicate n r ++ [.plus greedy r])

/-- The characters of a word in this order, in any case. -/
def word (w : List Char) : Regex :=
  seqAll (w.map fun c => .chars (.caseless (.single c)))

end Regex
end Pattern
end FeatureScan
