import FeatureScan.Pattern.Regex

/-!
Searching for matches in order. Of the matches that start at one position the preferred
one comes first: an earlier branch before a later one, and a greedy repetition before
its end. The matches of a text are found from left to right without overlap.
-/

namespace FeatureScan
namespace Pattern

/-- What a walk over the iterations of a repetition has seen: the positions where an
iteration ended, and the ends of the repetition, last first. -/
structure Walk where
  seen : List Nat
  ends : List Nat
  deriving Repr, DecidableEq

/-- Goes on from `i`, the end of an iteration. A position is entered once, and an
iteration that took nothing at the very start is not repeated. -/
def Walk.visit (step : Nat → List Nat) (greedy : Bool) (start : Nat) :
    Nat → Walk → Nat → Walk
  | 0, w, _ => w
  | fuel + 1, w, i =>
      if w.seen.contains i then w
      else
        let w := { w with seen := i :: w.seen }
        if i = start then { w with ends := i :: w.ends }
        else if greedy then
          let w := (step i).foldl (visit step greedy start fuel) w
          { w with ends := i :: w.ends }
        else
          (step i).foldl (visit step greedy start fuel) { w with ends := i :: w.ends }

namespace Regex

/-- The ends of the matches that start at `i`, preferred ones first, each once. -/
def ends (text : Array Char) : Regex → Nat → List Nat
  | .empty, i => [i]
  | .chars s, i => if text[i]?.any s.contains then [i + 1] else []
  | .look a, i => if a.holds text i then [i] else []
  | .seq r s, i =>
      match r.ends text i with
      | [] => []
      | [j] => s.ends text j
      | js => (js.flatMap (s.ends text)).eraseDups
  | .alt r s, i =>
      match r.ends text i with
      | [] => s.ends text i
      | js => (js ++ s.ends text i).eraseDups
  | .plus greedy r, i =>
      ((r.ends text i).foldl (Walk.visit (r.ends text) greedy i (text.size + 2 - i))
        ⟨[], []⟩).ends.reverse

/-- The preferred match starting at `i`. -/
def matchAt (r : Regex) (text : Array Char) (i : Nat) : Option (Nat × Nat) :=
  (r.ends text i).head?.map fun j => (i, j)

/-- The leftmost of the next `count` starting positions from `i` on with a match, with
its preferred end. -/
def findWithin (r : Regex) (text : Array Char) : Nat → Nat → Option (Nat × Nat)
  | 0, _ => none
  | count + 1, i =>
      match r.matchAt text i with
      | some m => some m
      | none => findWithin r text count (i + 1)

/-- The leftmost match that starts at `i` or later. -/
def findFrom (r : Regex) (text : Array Char) (i : Nat) : Option (Nat × Nat) :=
  r.findWithin text (text.size + 1 - i) i

/-- The match after one that ended at `last`. An empty match right there is passed
over. -/
def findNext (r : Regex) (text : Array Char) (last : Option Nat) : Option (Nat × Nat) :=
  match last with
  | none => r.findFrom text 0
  | some e =>
      match r.findFrom text e with
      | some (i, j) => if i = j ∧ j = e then r.findFrom text (e + 1) else some (i, j)
      | none => none

/-- The successive matches after one that ended at `last`. -/
def findAllAfter (r : Regex) (text : Array Char) : Nat → Option Nat → List (Nat × Nat)
  | 0, _ => []
  | fuel + 1, last =>
      match r.findNext text last with
      | some (i, j) => (i, j) :: findAllAfter r text fuel (some j)
      | none => []

/-- The successive matches of the text, which do not overlap. -/
def findAll (r : Regex) (text : Array Char) : List (Nat × Nat) :=
  r.findAllAfter text (text.size + 2) none

/-- The start of the last match at `i` or later among at most `fuel` starts; matches may
overlap. -/
def lastStartWithin (r : Regex) (text : Array Char) : Nat → Nat → Option Nat → Option Nat
  | 0, _, found => found
  | fuel + 1, i, found =>
      match r.findFrom text i with
      | some (s, _) => lastStartWithin r text fuel (s + 1) (some s)
      | none => found

/-- The start of the last, possibly overlapping, match at `i` or later. -/
def lastStart (r : Regex) (text : Array Char) (i : Nat) : Option Nat :=
  r.lastStartWithin text (text.size + 2 - i) i none

end Regex
end Pattern
end FeatureScan
