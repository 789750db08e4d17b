import FeatureScan.Text.Blank
import FeatureScan.Text.Intervals
import FeatureScan.Pattern.CaseFamily
import FeatureScan.Pattern.WordTable

/-!
Sets of characters as a pattern writes them. A set stays symbolic: membership is
decided for one character at a time, and closing a set under case asks whether some
member of the character's case family is in it.
-/

namespace FeatureScan
namespace Pattern

inductive CharSet where
  | empty
  /-- The closed interval between two code points. -/
  | range (lo hi : Nat)
  | blank
  | word
  | digit
  | union (a b : CharSet)
  | inter (a b : CharSet)
  | compl (a : CharSet)
  /-- The set closed under simple case folding. -/
  | caseless (a : CharSet)
  /-- The set closed under exchange of the two cases of ASCII letters. -/
  | asciiCaseless (a : CharSet)
  deriving Repr, DecidableEq

namespace CharSet

def contains : CharSet → Char → Bool
  | .empty, _ => false
  | .range lo hi, c => lo ≤ c.toNat && c.toNat ≤ hi
  | .blank, c => Text.isBlank c
  | .word, c =>
      if c.toNat < 128 then c.isAlphanum || c == '_'
      else Text.inIntervals c.toNat wordIntervals
  | .digit, c =>
      if c.toNat < 128 then c.isDigit else Text.inIntervals c.toNat digitIntervals
  | .union a b, c => a.contains c || b.contains c
  | .inter a b, c => a.contains c && b.contains c
  | .compl a, c => !a.contains c
  | .caseless a, c => (caseFamily c).any a.contains
  | .asciiCaseless a, c => a.contains c || a.contains (swapAsciiCase c)

def single (c : Char) : CharSet := .range c.toNat c.toNat

/-- Every character. -/
def any : CharSet := .compl .empty

def ofIntervals (ranges : List (Nat × Nat)) : CharSet :=
  ranges.foldr (fun (lo, hi) rest => .union (.range lo hi) rest) .empty

/-- Letters, digits and the underscore of ASCII. -/
def asciiWord : CharSet := ofIntervals [(0x30, 0x39), (0x41, 0x5a), (0x5f, 0x5f), (0x61, 0x7a)]

def asciiDigit : CharSet := .range 0x30 0x39

def asciiBlank : CharSet := ofIntervals [(0x09, 0x0d), (0x20, 0x20)]

/-- Whether the set holds no character of code 128 to 255. The sets of a pattern part
that is read in ASCII hold all characters beyond ASCII or none. -/
def isAsciiOnly (s : CharSet) : Bool :=
  (List.range 128).all fun k => !s.contains (Char.ofNat (128 + k))

end CharSet
end Pattern
end FeatureScan
