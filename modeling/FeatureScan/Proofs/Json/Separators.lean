import FeatureScan.Proofs.Json.Grammar
import FeatureScan.Proofs.Json.RoundTrip
import Mathlib.Data.List.TakeWhile

/-!
What stands between the parts of a document: blanks, commas, colons and the closing brackets. The
reader passes over it to where the next part stands.
-/

namespace FeatureScan
namespace Json

theorem Blank.append {b b' : List Char} (h : Blank b) (h' : Blank b') : Blank (b ++ b') :=
  List.forall_mem_append.mpr ⟨h, h'⟩

theorem blank_nil : Blank [] := nofun

theorem exists_skipSpace (input : List Char) : ∃ b, Blank b ∧ input = b ++ skipSpace input :=
  ⟨input.takeWhile isSpace, fun _ => List.mem_takeWhile_imp,
    List.takeWhile_append_dropWhile.symm⟩

theorem stops_blank_append {b rest : List Char} (blank : Blank b) (stop : Stops rest) :
    Stops (b ++ rest) := by
  cases b with
  | nil => exact stop
  | cons c b =>
      have space := blank c List.mem_cons_self
      apply stops_cons
      simp only [isSpace, Bool.or_eq_true, beq_iff_eq] at space
      rcases space with ((rfl | rfl) | rfl) | rfl <;> decide

/-- Where the next part stands: the first one at once, and any other after a comma. -/
inductive Lead : Bool → List Char → List Char → Prop
  | first {s} : Lead true s s
  | comma {b s} (blank : Blank b) : Lead false s (b ++ ',' :: s)

variable {first : Bool} {input rest : List Char}

theorem nextItem_of_lead {b tail : List Char} {c : Char} (lead : Lead first (b ++ c :: tail) input)
    (blank : Blank b) (opening : Opening c) : nextItem first input = .ok (some (c :: tail)) := by
  have start : skipSpace (b ++ c :: tail) = c :: tail := by
    rw [skipSpace_append blank, skipSpace_of_not_space opening.1]
  cases lead with
  | first => exact nextItem_first start opening
  | comma blank' =>
      refine nextItem_more ?_ start opening
      rw [skipSpace_append blank', skipSpace_of_not_space rfl]

theorem nextMember_of_lead {b tail : List Char} (lead : Lead first (b ++ '"' :: tail) input)
    (blank : Blank b) : nextMember first input = .ok (some tail) := by
  have start : skipSpace (b ++ '"' :: tail) = '"' :: tail := by
    rw [skipSpace_append blank, skipSpace_of_not_space rfl]
  cases lead with
  | first => exact nextMember_first start
  | comma blank' =>
      refine nextMember_more ?_ start
      rw [skipSpace_append blank', skipSpace_of_not_space rfl]

theorem lead_first (input : List Char) :
    ∃ b, Blank b ∧ Lead true (b ++ skipSpace input) input := by
  obtain ⟨b, blank, split⟩ := exists_skipSpace input
  exact ⟨b, blank, split ▸ .first⟩

theorem lead_comma {after : List Char} (comma : skipSpace input = ',' :: after) :
    ∃ b, Blank b ∧ Lead false (b ++ skipSpace after) input := by
  obtain ⟨b, blank, split⟩ := exists_skipSpace input
  obtain ⟨b', blank', split'⟩ := exists_skipSpace after
  rw [comma] at split
  exact ⟨b', blank', split' ▸ split ▸ .comma blank⟩

theorem lead_of_nextItem {next : List Char} (found : nextItem first input = .ok (some next)) :
    ∃ b, Blank b ∧ Lead first (b ++ next) input := by
  unfold nextItem at found
  cases first with
  | true =>
      have here : skipSpace input = next := by
        split at found <;> simp_all [failOn]
      exact here ▸ lead_first input
  | false =>
      split at found
      next => cases found
      next => cases found
      next after comma =>
        simp only [Bool.false_eq_true, if_false] at found
        have here : skipSpace after = next := by
          split at found <;> simp_all [failOn]
        exact here ▸ lead_comma comma
      next => cases found

theorem lead_of_nextMember {next : List Char} (found : nextMember first input = .ok (some next)) :
    ∃ b, Blank b ∧ Lead first (b ++ '"' :: next) input := by
  unfold nextMember at found
  dsimp only at found
  cases first with
  | true =>
      have here : skipSpace input = '"' :: next := by
        split at found
        next => cases found
        next => cases found
        next => cases found
        next =>
          simp only [if_true] at found
          split at found <;> simp_all [failOn]
      exact here ▸ lead_first input
  | false =>
      split at found
      next => cases found
      next => cases found
      next after comma =>
        simp only [Bool.false_eq_true, if_false] at found
        have here : skipSpace after = '"' :: next := by
          split at found
          next => cases found
          next => cases found
          next => split at found <;> simp_all [failOn]
        exact here ▸ lead_comma comma
      next => cases found

/-- The part ends here: the bracket is next. -/
theorem close_of_skipSpace {bracket : Char} {after : List Char}
    (same : skipSpace input = bracket :: after) :
    ∃ b after, Blank b ∧ input = b ++ bracket :: after ∧ (skipSpace input).drop 1 = after := by
  obtain ⟨b, blank, split⟩ := exists_skipSpace input
  rw [same] at split ⊢
  exact ⟨b, after, blank, split, rfl⟩

theorem close_of_nextItem (closed : nextItem first input = .ok none) :
    ∃ b after, Blank b ∧ input = b ++ ']' :: after ∧ (skipSpace input).drop 1 = after := by
  unfold nextItem at closed
  split at closed
  next => cases closed
  next after bracket => exact close_of_skipSpace bracket
  next =>
    cases first with
    | true => cases closed
    | false =>
        simp only [Bool.false_eq_true, if_false] at closed
        split at closed <;> cases closed
  next => cases first <;> cases closed

theorem close_of_nextMember (closed : nextMember first input = .ok none) :
    ∃ b after, Blank b ∧ input = b ++ '\x7d' :: after ∧ (skipSpace input).drop 1 = after := by
  unfold nextMember at closed
  dsimp only at closed
  split at closed
  next => cases closed
  next after brace => exact close_of_skipSpace brace
  next =>
    cases first with
    | true => cases closed
    | false =>
        simp only [Bool.false_eq_true, if_false] at closed
        split at closed
        next => cases closed
        next => cases closed
        next => split at closed <;> cases closed
  next =>
    cases first with
    | true =>
        simp only [if_true] at closed
        split at closed <;> cases closed
    | false => cases closed

theorem readColon_eq_ok :
    readColon input = .ok ((), rest) ↔ ∃ b, Blank b ∧ input = b ++ ':' :: rest := by
  constructor
  · intro read
    obtain ⟨b, blank, split⟩ := exists_skipSpace input
    unfold readColon at read
    split at read
    next same =>
      cases read
      exact ⟨b, blank, same ▸ split⟩
    next => cases read
    next => cases read
  · rintro ⟨b, blank, rfl⟩
    rw [readColon, skipSpace_append blank, skipSpace_of_not_space rfl]
    rfl

end Json
end FeatureScan
