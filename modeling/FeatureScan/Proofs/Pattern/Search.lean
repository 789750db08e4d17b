import FeatureScan.Proofs.Pattern.Matches

/-!
What the searches find. A search from a position finds the leftmost start; the successive
matches follow one another without overlap and pass over no start except inside a match;
and the last start is the greatest one.
-/

namespace FeatureScan
namespace Pattern
namespace Regex

variable {r : Regex} {text : Array Char}

def StartsAt (r : Regex) (text : Array Char) (i : Nat) : Prop := r.matchAt text i ≠ none

theorem fst_of_matchAt {i : Nat} {m : Nat × Nat} (h : r.matchAt text i = some m) : m.1 = i := by
  obtain ⟨j, _, rfl⟩ := Option.map_eq_some_iff.mp h
  rfl

theorem startsAt_of_matchAt {i : Nat} {m : Nat × Nat} (h : r.matchAt text i = some m) :
    r.StartsAt text i := by
  rw [StartsAt, h]
  exact Option.some_ne_none m

theorem matches_of_matchAt {i j : Nat} (h : r.matchAt text i = some (i, j)) :
    Matches text r i j := by
  obtain ⟨k, first, same⟩ := Option.map_eq_some_iff.mp h
  cases same
  exact matches_of_mem_ends (List.mem_of_mem_head? first)

/-- The leftmost of some starting positions. -/
inductive Leftmost (r : Regex) (text : Array Char) (i stop : Nat) : Option (Nat × Nat) → Prop where
  | found {s e : Nat} (after : i ≤ s) (before : s < stop) (here : r.matchAt text s = some (s, e))
      (first : ∀ k, i ≤ k → k < s → ¬ r.StartsAt text k) : Leftmost r text i stop (some (s, e))
  | nowhere (never : ∀ k, i ≤ k → k < stop → ¬ r.StartsAt text k) : Leftmost r text i stop none

theorem findWithin_leftmost (r : Regex) (text : Array Char) (count i : Nat) :
    Leftmost r text i (i + count) (r.findWithin text count i) := by
  induction count generalizing i with
  | zero => exact .nowhere fun k low high => absurd high (by omega)
  | succ count ih =>
      rw [findWithin]
      split
      next m here =>
        obtain ⟨s, e⟩ := m
        cases fst_of_matchAt here
        exact .found (Nat.le_refl s) (by omega) here fun k low high => absurd high (by omega)
      next none =>
        have free : ¬ r.StartsAt text i := fun starts => starts none
        have extend : ∀ k, i ≤ k → ¬ i + 1 ≤ k → ¬ r.StartsAt text k := by
          intro k low notAfter
          have same : k = i := by omega
          rw [same]
          exact free
        have rest := ih (i + 1)
        generalize r.findWithin text count (i + 1) = result at rest
        cases rest with
        | found after before here first =>
            refine .found (by omega) (by omega) here fun k low high => ?_
            by_cases later : i + 1 ≤ k
            · exact first k later high
            · exact extend k low later
        | nowhere never =>
            refine .nowhere fun k low high => ?_
            by_cases later : i + 1 ≤ k
            · exact never k later (by omega)
            · exact extend k low later

theorem findFrom_leftmost (r : Regex) (text : Array Char) (i : Nat) :
    Leftmost r text i (max i (text.size + 1)) (r.findFrom text i) := by
  have found := findWithin_leftmost r text (text.size + 1 - i) i
  have stop : i + (text.size + 1 - i) = max i (text.size + 1) := by omega
  rwa [stop] at found

theorem findFrom_eq_none {i : Nat} (h : r.findFrom text i = none) {k : Nat} (low : i ≤ k)
    (bound : k ≤ text.size) : ¬ r.StartsAt text k := by
  have found := findFrom_leftmost r text i
  rw [h] at found
  cases found with
  | nowhere never => exact never k low (by omega)

theorem findFrom_eq_some {i s e : Nat} (h : r.findFrom text i = some (s, e)) :
    i ≤ s ∧ s ≤ text.size ∧ r.matchAt text s = some (s, e) ∧
      ∀ k, i ≤ k → k < s → ¬ r.StartsAt text k := by
  have found := findFrom_leftmost r text i
  rw [h] at found
  cases found with
  | found after before here first => exact ⟨after, by omega, here, first⟩

/-- Only an empty match at the end of the last one is passed over. -/
theorem findNext_eq_none {last : Option Nat} (h : r.findNext text last = none) {k j : Nat}
    (low : last.getD 0 ≤ k) (bound : k ≤ text.size) (here : r.matchAt text k = some (k, j)) :
    j = k := by
  unfold findNext at h
  split at h
  · exact absurd (startsAt_of_matchAt here) (findFrom_eq_none h low bound)
  next e =>
    split at h
    next s e' found =>
      split at h
      next same =>
        obtain ⟨rfl, rfl⟩ := same
        obtain ⟨_, _, at_e, _⟩ := findFrom_eq_some found
        by_cases at_end : k = s
        · subst at_end
          rw [here] at at_e
          cases at_e
          rfl
        · have later : s ≤ k := low
          exact absurd (startsAt_of_matchAt here) (findFrom_eq_none h (by omega) bound)
      next => cases h
    next none => exact absurd (startsAt_of_matchAt here) (findFrom_eq_none none low bound)

theorem findNext_eq_some {last : Option Nat} {s e : Nat} (h : r.findNext text last = some (s, e)) :
    last.getD 0 ≤ s ∧ s ≤ text.size ∧ r.matchAt text s = some (s, e) ∧
      (∀ l, last = some l → l < e) ∧
      ∀ k j, last.getD 0 ≤ k → k < s → r.matchAt text k = some (k, j) → j = k := by
  unfold findNext at h
  split at h
  · obtain ⟨low, bound, here, first⟩ := findFrom_eq_some h
    refine ⟨low, bound, here, fun _ h => (nomatch h), fun k j low high at_k => ?_⟩
    exact absurd (startsAt_of_matchAt at_k) (first k low high)
  next l =>
    split at h
    next s' e' found =>
      obtain ⟨low', bound', here', first'⟩ := findFrom_eq_some found
      split at h
      next same =>
        obtain ⟨rfl, rfl⟩ := same
        obtain ⟨low, bound, here, first⟩ := findFrom_eq_some h
        have le := (matches_of_matchAt here).le
        refine ⟨by simp; omega, bound, here, ?_, fun k j low high at_k => ?_⟩
        · intro l hl
          cases hl
          omega
        · by_cases at_end : k = s'
          · subst at_end
            rw [here'] at at_k
            cases at_k
            rfl
          · have later : s' ≤ k := low
            exact absurd (startsAt_of_matchAt at_k) (first k (by omega) high)
      next differs =>
        cases h
        have le := (matches_of_matchAt here').le
        refine ⟨low', bound', here', ?_, fun k j low high at_k => ?_⟩
        · intro l' hl
          cases hl
          omega
        · exact absurd (startsAt_of_matchAt at_k) (first' k low high)
    next => cases h

theorem mem_findAllAfter {fuel : Nat} {last : Option Nat} {m : Nat × Nat}
    (h : m ∈ r.findAllAfter text fuel last) :
    last.getD 0 ≤ m.1 ∧ m.1 ≤ text.size ∧ r.matchAt text m.1 = some m := by
  induction fuel generalizing last with
  | zero => cases h
  | succ fuel ih =>
      rw [findAllAfter] at h
      split at h
      next s e next =>
        obtain ⟨low, bound, here, _, _⟩ := findNext_eq_some next
        rcases List.mem_cons.mp h with rfl | h
        · exact ⟨low, bound, here⟩
        · obtain ⟨after, rest⟩ := ih h
          have le := (matches_of_matchAt here).le
          have later : e ≤ m.1 := after
          exact ⟨by omega, rest⟩
      next => cases h

theorem findAllAfter_pairwise (fuel : Nat) (last : Option Nat) :
    (r.findAllAfter text fuel last).Pairwise fun a b => a.2 ≤ b.1 := by
  induction fuel generalizing last with
  | zero => exact List.Pairwise.nil
  | succ fuel ih =>
      rw [findAllAfter]
      split
      next s e next => exact List.pairwise_cons.mpr ⟨fun m hm => (mem_findAllAfter hm).1, ih _⟩
      next => exact List.Pairwise.nil

/-- The number of matches that there can still be after one that ended at `last`. -/
def matchesLeft (text : Array Char) : Option Nat → Nat
  | none => text.size + 2
  | some l => text.size + 1 - l

/-- A start of a match that takes something is found, or lies inside a match that is. -/
theorem findAllAfter_complete {fuel : Nat} {last : Option Nat}
    (enough : matchesLeft text last ≤ fuel) {k j : Nat} (low : last.getD 0 ≤ k)
    (bound : k ≤ text.size) (here : r.matchAt text k = some (k, j)) (takes : k < j) :
    ∃ m ∈ r.findAllAfter text fuel last, m.1 = k ∨ m.1 < k ∧ k < m.2 := by
  induction fuel generalizing last with
  | zero =>
      cases last with
      | none => exact absurd enough (by simp only [matchesLeft]; omega)
      | some l =>
          have late : text.size + 1 - l ≤ 0 := enough
          have low : l ≤ k := low
          omega
  | succ fuel ih =>
      rw [findAllAfter]
      split
      next s e next =>
        obtain ⟨low', bound', here', after, passed⟩ := findNext_eq_some next
        by_cases inside : s < k ∧ e ≤ k
        · have le := (matches_of_matchAt here').le
          have less : matchesLeft text (some e) ≤ fuel := by
            cases last with
            | none =>
                simp only [matchesLeft] at enough ⊢
                omega
            | some l =>
                have later := after l rfl
                simp only [matchesLeft] at enough ⊢
                omega
          obtain ⟨m, hm, covers⟩ := ih less inside.2
          exact ⟨m, List.mem_cons_of_mem _ hm, covers⟩
        · refine ⟨(s, e), List.mem_cons_self, ?_⟩
          have reached : s ≤ k := by
            refine Nat.le_of_not_lt fun beyond => ?_
            have empty := passed k j low beyond here
            omega
          dsimp only
          omega
      next none =>
        have empty := findNext_eq_none none low bound here
        omega

theorem mem_findAll {m : Nat × Nat} (h : m ∈ r.findAll text) :
    m.1 ≤ text.size ∧ r.matchAt text m.1 = some m :=
  (mem_findAllAfter h).2

theorem findAll_complete {k j : Nat} (bound : k ≤ text.size)
    (here : r.matchAt text k = some (k, j)) (takes : k < j) :
    ∃ m ∈ r.findAll text, m.1 = k ∨ m.1 < k ∧ k < m.2 := by
  have enough : matchesLeft text none ≤ text.size + 2 := Nat.le_refl _
  exact findAllAfter_complete enough (Nat.zero_le k) bound here takes

/-- Later matches end later. -/
theorem findAll_ends_pairwise (r : Regex) (text : Array Char) :
    (r.findAll text).Pairwise fun a b => a.2 ≤ b.2 := by
  refine (findAllAfter_pairwise _ _).imp_of_mem fun {a b} _ hb le => ?_
  have forward := (matches_of_matchAt (mem_findAll hb).2).le
  omega

theorem lastStartWithin_eq (r : Regex) (text : Array Char) (fuel i : Nat) (found : Option Nat)
    (enough : text.size + 2 - i ≤ fuel) :
    (r.lastStartWithin text fuel i found = found ∧
        ∀ k, i ≤ k → k ≤ text.size → ¬ r.StartsAt text k) ∨
      ∃ s, r.lastStartWithin text fuel i found = some s ∧ i ≤ s ∧ s ≤ text.size ∧
        r.StartsAt text s ∧ ∀ k, s < k → k ≤ text.size → ¬ r.StartsAt text k := by
  induction fuel generalizing i found with
  | zero => exact Or.inl ⟨rfl, fun k low high => absurd high (by omega)⟩
  | succ fuel ih =>
      rw [lastStartWithin]
      split
      next s e next =>
        obtain ⟨low, bound, here, _⟩ := findFrom_eq_some next
        refine Or.inr ?_
        rcases ih (s + 1) (some s) (by omega) with ⟨same, never⟩ | ⟨t, same, after, rest⟩
        · exact ⟨s, same, low, bound, startsAt_of_matchAt here, never⟩
        · exact ⟨t, same, by omega, rest⟩
      next none => exact Or.inl ⟨rfl, fun k low bound => findFrom_eq_none none low bound⟩

theorem lastStart_eq_none {i : Nat} :
    r.lastStart text i = none ↔ ∀ k, i ≤ k → k ≤ text.size → ¬ r.StartsAt text k := by
  rcases lastStartWithin_eq r text (text.size + 2 - i) i none (Nat.le_refl _) with
    ⟨same, never⟩ | ⟨s, same, low, bound, here, _⟩
  · exact ⟨fun _ => never, fun _ => same⟩
  · constructor
    · intro none
      rw [lastStart, same] at none
      cases none
    · exact fun never => absurd here (never s low bound)

theorem lastStart_eq_some {i s : Nat} :
    r.lastStart text i = some s ↔
      i ≤ s ∧ s ≤ text.size ∧ r.StartsAt text s ∧
        ∀ k, s < k → k ≤ text.size → ¬ r.StartsAt text k := by
  rcases lastStartWithin_eq r text (text.size + 2 - i) i none (Nat.le_refl _) with
    ⟨same, never⟩ | ⟨t, same, low, bound, here, last⟩
  · constructor
    · intro found
      rw [lastStart, same] at found
      cases found
    · exact fun ⟨low, bound, here, _⟩ => absurd here (never s low bound)
  · rw [lastStart, same, Option.some.injEq]
    constructor
    · rintro rfl
      exact ⟨low, bound, here, last⟩
    · rintro ⟨_, bound', here', last'⟩
      -- Neither start lies behind the other one.
      have le : ¬ t < s := fun lt => last s lt bound' here'
      have ge : ¬ s < t := fun lt => last' t lt bound here
      omega

end Regex
end Pattern
end FeatureScan
