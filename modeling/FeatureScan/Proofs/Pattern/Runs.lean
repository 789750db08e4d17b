import FeatureScan.Pattern.Regex

/-!
Runs of the characters of a set. An expression that takes one character of a set and nothing else
matches a run of them when it is repeated.
-/

namespace FeatureScan
namespace Pattern

/-- All characters between the positions are in the set. -/
def RunOf (set : CharSet) (text : List Char) (i j : Nat) : Prop :=
  ∀ k, i ≤ k → k < j → text[k]?.any set.contains = true

theorem RunOf.sub {set : CharSet} {text : List Char} {i j k l : Nat} (run : RunOf set text i l)
    (low : i ≤ j) (high : k ≤ l) : RunOf set text j k :=
  fun n after before => run n (Nat.le_trans low after) (Nat.lt_of_lt_of_le before high)

theorem RunOf.append {set : CharSet} {text : List Char} {i j k l : Nat} (first : RunOf set text i j)
    (second : RunOf set text k l) (meet : k ≤ j) : RunOf set text i l := by
  intro n low high
  by_cases before : n < j
  · exact first n low before
  · exact second n (by omega) high

section

variable {s : List Char} {set : CharSet}

theorem runOf_single {i : Nat} {c : Char} (at_i : s[i]? = some c) (mem : set.contains c = true) :
    RunOf set s i (i + 1) := by
  intro k low high
  rw [Nat.le_antisymm (Nat.le_of_lt_succ high) low, at_i]
  exact mem

theorem runOf_of_le {i j : Nat} (none : j ≤ i) : RunOf set s i j :=
  fun _ low high => absurd (Nat.lt_of_lt_of_le high none) (Nat.not_lt.mpr low)

end

namespace Regex

/-- The set of the characters that the expression takes, where it takes one and nothing else. -/
def single? : Regex → Option CharSet
  | .chars set => some set
  | .alt r s => r.single?.bind fun a => s.single?.map (.union a)
  | .empty | .look _ | .seq _ _ | .plus _ _ => none

variable {text : List Char} {r : Regex} {set : CharSet}

theorem matches_single (one : r.single? = some set) {i j : Nat} :
    Matches text.toArray r i j ↔ j = i + 1 ∧ text[i]?.any set.contains = true := by
  induction r generalizing set with
  | chars s =>
      cases one
      constructor
      · intro here
        cases here with
        | chars at_i mem =>
            rw [List.getElem?_toArray] at at_i
            exact ⟨rfl, by rw [at_i]; exact mem⟩
      · rintro ⟨rfl, mem⟩
        obtain ⟨c, at_i, mem⟩ := (Option.any_eq_true _ _).mp mem
        exact .chars ((List.getElem?_toArray ..).trans at_i) mem
  | alt r s first second =>
      obtain ⟨a, left, found⟩ := Option.bind_eq_some_iff.mp one
      obtain ⟨b, right, rfl⟩ := Option.map_eq_some_iff.mp found
      have split : text[i]?.any (CharSet.union a b).contains =
          (text[i]?.any a.contains || text[i]?.any b.contains) := by
        cases text[i]? <;> rfl
      rw [split, Bool.or_eq_true, and_or_left, ← first left, ← second right]
      constructor
      · intro here
        cases here with
        | altFirst here => exact .inl here
        | altSecond here => exact .inr here
      · exact fun here => here.elim .altFirst .altSecond
  | empty | look | seq | plus => cases one

/-- A repetition of one character at a time matches the runs of its set. -/
theorem matches_plus_single (one : r.single? = some set) {greedy : Bool} {i j : Nat} :
    Matches text.toArray (.plus greedy r) i j ↔ i < j ∧ RunOf set text i j := by
  constructor
  · intro here
    generalize repeated : Regex.plus greedy r = p at here
    induction here with
    | once body =>
        cases repeated
        obtain ⟨rfl, mem⟩ := (matches_single one).mp body
        refine ⟨Nat.lt_succ_self _, fun k low high => ?_⟩
        rwa [Nat.le_antisymm (Nat.le_of_lt_succ high) low]
    | again body _ _ ih =>
        cases repeated
        obtain ⟨rfl, mem⟩ := (matches_single one).mp body
        obtain ⟨after, run⟩ := ih rfl
        refine ⟨Nat.lt_of_succ_lt after, fun k low high => ?_⟩
        rcases Nat.eq_or_lt_of_le low with rfl | inside
        · exact mem
        · exact run k inside high
    | empty | chars | look | seq | altFirst | altSecond => cases repeated
  · rintro ⟨before, run⟩
    obtain ⟨n, rfl⟩ := Nat.exists_eq_add_of_lt before
    have first : ∀ {i}, text[i]?.any set.contains = true → Matches text.toArray r i (i + 1) :=
      fun mem => (matches_single one).mpr ⟨rfl, mem⟩
    induction n generalizing i with
    | zero => exact .once (first (run i (Nat.le_refl i) before))
    | succ n ih =>
        have rest := @ih (i + 1) (by omega) fun k low high => run k (by omega) (by omega)
        rw [Nat.add_right_comm i 1 n] at rest
        exact .again (first (run i (Nat.le_refl i) before)) rest

/-- The set of the characters of a run that may be empty. -/
def many? (first second : Regex) : Option CharSet :=
  match first, second with
  | .plus _ r, .empty => r.single?
  | _, _ => none

theorem matches_many {s : Regex} (many : many? r s = some set) {i j : Nat} :
    Matches text.toArray (.alt r s) i j ↔ i ≤ j ∧ RunOf set text i j := by
  unfold many? at many
  split at many
  next greedy body =>
    constructor
    · intro here
      cases here with
      | altFirst here =>
          obtain ⟨before, run⟩ := (matches_plus_single many).mp here
          exact ⟨Nat.le_of_lt before, run⟩
      | altSecond here =>
          cases here
          exact ⟨Nat.le_refl _, fun k low high => absurd high (Nat.not_lt.mpr low)⟩
    · rintro ⟨bound, run⟩
      rcases Nat.eq_or_lt_of_le bound with rfl | before
      · exact .altSecond (.empty _)
      · exact .altFirst ((matches_plus_single many).mpr ⟨before, run⟩)
  next => cases many

end Regex

end Pattern
end FeatureScan
