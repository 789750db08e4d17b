import FeatureScan.Pattern.Regex

/-!
Searching for any match at all. A set of positions is a number whose bit `i` says
whether position `i` is in it, and an expression maps the positions where a match may
start to the positions where it may end. One pass over the expression then answers for
all starting positions of the text together.
-/

namespace FeatureScan
namespace Pattern

/-- A text with, for each character that occurs, the set of its positions. -/
structure Haystack where
  chars : Array Char
  places : List (Char × Nat)

namespace Haystack

def addPlace (c : Char) (bit : Nat) : List (Char × Nat) → List (Char × Nat)
  | [] => [(c, bit)]
  | (d, bits) :: rest =>
      if c = d then (d, bits ||| bit) :: rest else (d, bits) :: addPlace c bit rest

/-- The positions of the characters of a text that begins at position `i`. -/
def placesFrom : Nat → List Char → List (Char × Nat) → List (Char × Nat)
  | _, [], places => places
  | i, c :: rest, places => placesFrom (i + 1) rest (addPlace c (1 <<< i) places)

def ofArray (chars : Array Char) : Haystack :=
  ⟨chars, placesFrom 0 chars.toList []⟩

/-- The positions at which a character of the set stands. -/
def mask (h : Haystack) (s : CharSet) : Nat :=
  h.places.foldl (fun bits (c, at_) => if s.contains c then bits ||| at_ else bits) 0

/-- The positions of the text, its end among them. -/
def all (h : Haystack) : Nat := (1 <<< (h.chars.size + 1)) - 1

/-- The end of the text. -/
def last (h : Haystack) : Nat := 1 <<< h.chars.size

/-- The positions at which an anchor holds. -/
def anchorMask (h : Haystack) : Anchor → Nat
  | .textStart => 1
  | .textEnd => h.last
  | .lineStart => (h.mask (.single '\n') <<< 1) ||| 1
  | .lineEnd => h.mask (.single '\n') ||| h.last
  | .anyLineStart =>
      let feed := h.mask (.single '\n')
      let ret := h.mask (.single '\r') <<< 1
      (feed <<< 1) ||| 1 ||| (ret ^^^ (ret &&& feed))
  | .anyLineEnd =>
      let feed := h.mask (.single '\n')
      let ret := h.mask (.single '\r')
      ret ||| h.last ||| (feed ^^^ (feed &&& (ret <<< 1)))
  | .wordEdge w => let m := h.mask w; (m <<< 1) ^^^ m
  | .notWordEdge w => let m := h.mask w; h.all ^^^ ((m <<< 1) ^^^ m)
  | .wordStart w => let m := h.mask w; m ^^^ (m &&& (m <<< 1))
  | .wordEnd w => let m := h.mask w; (m <<< 1) ^^^ (m &&& (m <<< 1))
  | .wordStartHalf w => h.all ^^^ (h.mask w <<< 1)
  | .wordEndHalf w => h.all ^^^ h.mask w

end Haystack

/-- Adds to a set what `step` reaches from it until nothing new appears. -/
def closure (step : Nat → Nat) : Nat → Nat → Nat
  | 0, set => set
  | fuel + 1, set =>
      let more := set ||| step set
      if more = set then set else closure step fuel more

namespace Regex

/-- The positions at which a match ends that starts in the given set. -/
def reach (h : Haystack) : Regex → Nat → Nat
  | .empty, set => set
  | .chars s, set => if set = 0 then 0 else (set &&& h.mask s) <<< 1
  | .look a, set => if set = 0 then 0 else set &&& h.anchorMask a
  | .seq r s, set => s.reach h (r.reach h set)
  | .alt r s, set => r.reach h set ||| s.reach h set
  | .plus _ r, set =>
      if set = 0 then 0 else closure (r.reach h) (h.chars.size + 1) (r.reach h set)

/-- Whether the expression matches anywhere. -/
def isMatch (r : Regex) (h : Haystack) : Bool := r.reach h h.all ≠ 0

end Regex
end Pattern
end FeatureScan
