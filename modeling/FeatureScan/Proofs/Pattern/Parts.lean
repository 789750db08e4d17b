import FeatureScan.Proofs.Pattern.Matches
import FeatureScan.Proofs.Pattern.Reach
import Mathlib.Data.List.Infix

/-!
Expressions that are a stretch of other expressions. Read as a row of parts, an expression
matches where its parts match one after the other, so where a row matches, every stretch of it
matches as well.
-/

namespace FeatureScan
namespace Pattern
namespace Regex

variable {text : Array Char} {i j : Nat}

/-- The expressions that have to match one after the other. -/
def parts : Regex → List Regex
  | .empty => []
  | .seq r s => r.parts ++ s.parts
  | .chars set => [.chars set]
  | .look anchor => [.look anchor]
  | .alt r s => [.alt r s]
  | .plus greedy r => [.plus greedy r]

/-- The expressions match one after the other, from `i` to `j`. -/
def MatchesRow (text : Array Char) : List Regex → Nat → Nat → Prop
  | [], i, j => i = j
  | r :: rest, i, j => ∃ k, Matches text r i k ∧ MatchesRow text rest k j

theorem matchesRow_append (row more : List Regex) :
    MatchesRow text (row ++ more) i j ↔
      ∃ k, MatchesRow text row i k ∧ MatchesRow text more k j := by
  induction row generalizing i with
  | nil => simp [MatchesRow]
  | cons r row ih =>
      simp only [List.cons_append, MatchesRow, ih]
      constructor
      · rintro ⟨k, first, l, others, later⟩
        exact ⟨l, ⟨k, first, others⟩, later⟩
      · rintro ⟨l, ⟨k, first, others⟩, later⟩
        exact ⟨k, first, l, others, later⟩

theorem matchesRow_singleton (r : Regex) : MatchesRow text [r] i j ↔ Matches text r i j := by
  simp [MatchesRow]

theorem matchesRow_parts (r : Regex) : MatchesRow text r.parts i j ↔ Matches text r i j := by
  induction r generalizing i j with
  | empty =>
      constructor
      · rintro rfl
        exact .empty i
      · intro here
        cases here
        rfl
  | seq r s first second =>
      rw [parts, matchesRow_append]
      constructor
      · rintro ⟨k, front, back⟩
        exact .seq (first.mp front) (second.mp back)
      · intro here
        cases here with
        | seq front back => exact ⟨_, first.mpr front, second.mpr back⟩
  | chars | look | alt | plus => exact matchesRow_singleton _

theorem MatchesRow.le {row : List Regex} (here : MatchesRow text row i j) : i ≤ j := by
  induction row generalizing i with
  | nil => exact Nat.le_of_eq here
  | cons r row ih =>
      obtain ⟨k, first, others⟩ := here
      exact Nat.le_trans first.le (ih others)

/-- Where an expression matches, every stretch of its parts matches. -/
theorem exists_matches_of_infix {special general : Regex} (stretch : general.parts <:+: special.parts)
    (here : Matches text special i j) : ∃ k l, i ≤ k ∧ l ≤ j ∧ Matches text general k l := by
  obtain ⟨before, after, whole⟩ := stretch
  have row := (matchesRow_parts special).mpr here
  rw [← whole, matchesRow_append] at row
  obtain ⟨l, row, back⟩ := row
  rw [matchesRow_append] at row
  obtain ⟨k, front, middle⟩ := row
  exact ⟨k, l, front.le, back.le, (matchesRow_parts general).mp middle⟩

end Regex
end Pattern
end FeatureScan
