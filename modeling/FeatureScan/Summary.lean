import FeatureScan.Feature
import FeatureScan.Binary64

/-!
Counts of the statuses in a list of features, and the score and the rating that follow
from them. The score is computed in floating point and then rounded, so the counts, the
share and the percentage are each rounded to 53 bits first.
-/

namespace FeatureScan

structure Summary where
  total : Nat
  baseline : Nat
  needsFallback : Nat
  unknown : Nat
  deriving Repr, DecidableEq

/-- The tiers of a score. -/
inductive Rating where
  | outstanding
  | great
  | good
  | needsWork
  deriving Repr, DecidableEq

namespace Rating

def all : List Rating := [.outstanding, .great, .good, .needsWork]

def ofScore (score : Nat) : Rating :=
  if 85 ≤ score then .outstanding
  else if 70 ≤ score then .great
  else if 50 ≤ score then .good
  else .needsWork

def name : Rating → String
  | .outstanding => "outstanding"
  | .great => "great"
  | .good => "good"
  | .needsWork => "needs_work"

def message : Rating → String
  | .outstanding => "Outstanding! Your code is highly compatible with modern browsers."
  | .great => "Great job! Most features are well-supported across browsers."
  | .good => "Good foundation with room for improvement in browser compatibility."
  | .needsWork => "Consider adding fallbacks to improve cross-browser compatibility."

end Rating

namespace Summary

def empty : Summary := ⟨0, 0, 0, 0⟩

/-- Counts one more feature of the given status. -/
def add (s : Summary) : Support → Summary
  | .baseline => { s with total := s.total + 1, baseline := s.baseline + 1 }
  | .needsFallback => { s with total := s.total + 1, needsFallback := s.needsFallback + 1 }
  | .unknown => { s with total := s.total + 1, unknown := s.unknown + 1 }

def ofFeatures (features : List Feature) : Summary :=
  features.foldl (fun s f => s.add f.support) empty

def count (s : Summary) : Support → Nat
  | .baseline => s.baseline
  | .needsFallback => s.needsFallback
  | .unknown => s.unknown

/-- The share of supported features in percent, of no features none. -/
def score (s : Summary) : Option Nat :=
  if s.total = 0 then
    none
  else
    let percent := do
      let share ← (← Binary64.ofNat? s.baseline).div? (← Binary64.ofNat? s.total)
      share.mul? (← Binary64.ofNat? 100)
    some (min 100 ((percent.map Binary64.round).getD 100))

def rating (s : Summary) : Option Rating := s.score.map Rating.ofScore

/-- The counts as an error message shows them. -/
def describe (s : Summary) : String :=
  "Summary \x7b total: " ++ toString s.total ++ ", baseline: " ++ toString s.baseline ++
    ", needs_fallback: " ++ toString s.needsFallback ++ ", unknown: " ++ toString s.unknown ++
    " \x7d"

end Summary
end FeatureScan
