import FeatureScan.Pattern.Reach
import FeatureScan.Proofs.Pattern.Matches
import Mathlib.Data.Finset.Card
import Mathlib.Data.Nat.Bitwise

/-!
The search for any match at all is exact: from a set of positions an expression reaches
the ends of the matches that start there and nothing else. A repetition needs no more
rounds than there are positions, since every round but the last one adds a position.
-/

namespace FeatureScan
namespace Pattern

namespace Haystack

/-- The places have the character at position `k`. -/
def Lists (places : List (Char × Nat)) (c : Char) (k : Nat) : Prop :=
  ∃ bits, (c, bits) ∈ places ∧ bits.testBit k = true

theorem lists_cons {c d : Char} {bits k : Nat} {places : List (Char × Nat)} :
    Lists ((d, bits) :: places) c k ↔ c = d ∧ bits.testBit k = true ∨ Lists places c k := by
  simp only [Lists, List.mem_cons, Prod.mk.injEq, or_and_right, exists_or, and_assoc,
    exists_and_left, exists_eq_left]

theorem lists_addPlace {c d : Char} {bit k : Nat} {places : List (Char × Nat)} :
    Lists (addPlace c bit places) d k ↔ Lists places d k ∨ d = c ∧ bit.testBit k = true := by
  induction places with
  | nil => rw [addPlace, lists_cons, or_comm]
  | cons e rest ih =>
      obtain ⟨e, bits⟩ := e
      rw [addPlace]
      split
      next same =>
        subst same
        rw [lists_cons, lists_cons, Nat.testBit_or, Bool.or_eq_true]
        tauto
      next =>
        rw [lists_cons, lists_cons, ih]
        tauto

theorem lists_placesFrom {c : Char} {i k : Nat} {chars : List Char} {places : List (Char × Nat)} :
    Lists (placesFrom i chars places) c k ↔
      Lists places c k ∨ i ≤ k ∧ chars[k - i]? = some c := by
  induction chars generalizing i places with
  | nil => simp [placesFrom]
  | cons d rest ih =>
      rw [placesFrom, ih, lists_addPlace, or_assoc]
      refine or_congr_right ?_
      rw [Nat.one_shiftLeft, Nat.testBit_two_pow, decide_eq_true_eq]
      rcases Nat.lt_trichotomy i k with before | rfl | after
      · have next : k - i = k - (i + 1) + 1 := by omega
        rw [next, List.getElem?_cons_succ]
        have later : i + 1 ≤ k := before
        simp [Nat.ne_of_lt before, Nat.le_of_lt before, later]
      · simp [eq_comm]
      · have earlier : ¬ i + 1 ≤ k := Nat.not_le.mpr (Nat.lt_succ_of_lt after)
        simp [Nat.ne_of_gt after, Nat.not_le.mpr after, earlier]

theorem testBit_foldl_or {s : CharSet} {k : Nat} (places : List (Char × Nat)) (start : Nat) :
    (places.foldl (fun bits e => if s.contains e.1 then bits ||| e.2 else bits) start).testBit k =
        true ↔
      start.testBit k = true ∨ ∃ c, s.contains c = true ∧ Lists places c k := by
  induction places generalizing start with
  | nil => simp [Lists]
  | cons e rest ih =>
      obtain ⟨d, bits⟩ := e
      rw [List.foldl_cons, ih]
      simp only [lists_cons, and_or_left, exists_or, ← and_assoc]
      cases mem : s.contains d <;> simp [mem, or_assoc]

variable (text : Array Char)

theorem testBit_mask (s : CharSet) (k : Nat) :
    ((ofArray text).mask s).testBit k = ahead s text k := by
  rw [Bool.eq_iff_iff, ahead, Option.any_eq_true]
  refine (testBit_foldl_or (placesFrom 0 text.toList []) 0).trans ?_
  have none : ∀ c, ¬ Lists [] c k := fun _ ⟨_, mem, _⟩ => nomatch mem
  simp [lists_placesFrom, none, and_comm]

theorem testBit_mask_shift (s : CharSet) (k : Nat) :
    ((ofArray text).mask s <<< 1).testBit k = behind s text k := by
  rw [Nat.testBit_shiftLeft]
  cases k with
  | zero => rfl
  | succ k => simp [testBit_mask, behind, ahead]

theorem testBit_all (k : Nat) : (ofArray text).all.testBit k = decide (k ≤ text.size) := by
  rw [all, Nat.one_shiftLeft, Nat.testBit_two_pow_sub_one]
  exact decide_eq_decide.mpr Nat.lt_succ_iff

theorem testBit_last (k : Nat) : (ofArray text).last.testBit k = (k == text.size) := by
  rw [last, Nat.one_shiftLeft, Nat.testBit_two_pow]
  exact decide_eq_decide.mpr eq_comm

theorem testBit_first (k : Nat) : Nat.testBit 1 k = (k == 0) := by
  rw [Bool.eq_iff_iff, Nat.testBit_one_eq_true_iff_self_eq_zero, beq_iff_eq]

/-- On the positions of the text the mask of an anchor tells where it holds. -/
theorem testBit_anchorMask (a : Anchor) {k : Nat} (bound : k ≤ text.size) :
    ((ofArray text).anchorMask a).testBit k = a.holds text k := by
  cases a <;>
    simp only [anchorMask, Anchor.holds, Nat.testBit_or, Nat.testBit_and, Nat.testBit_xor,
      testBit_mask, testBit_mask_shift, testBit_all, testBit_last, testBit_first, bound,
      decide_true, Bool.true_xor]
  all_goals grind

end Haystack

/-- All members of the set are positions up to `n`. -/
def Within (n set : Nat) : Prop := ∀ k, set.testBit k = true → k ≤ n

/-- How many of the positions up to `n` the set does not have. -/
def missing (n set : Nat) : Nat :=
  ((Finset.range (n + 1)).filter fun k => set.testBit k = false).card

theorem missing_le (n set : Nat) : missing n set ≤ n + 1 :=
  (Finset.card_filter_le _ _).trans (Finset.card_range (n + 1)).le

theorem Within.or {n set more : Nat} (first : Within n set) (second : Within n more) :
    Within n (set ||| more) := by
  intro k mem
  rw [Nat.testBit_or, Bool.or_eq_true] at mem
  exact mem.elim (first k) (second k)

theorem missing_or_lt {n set more : Nat} (within : Within n more) (new : set ||| more ≠ set) :
    missing n (set ||| more) < missing n set := by
  obtain ⟨k, differs⟩ := Nat.exists_testBit_ne_of_ne new
  rw [Nat.testBit_or] at differs
  obtain ⟨absent, added⟩ : set.testBit k = false ∧ more.testBit k = true := by
    revert differs
    cases set.testBit k <;> cases more.testBit k <;> decide
  refine Finset.card_lt_card ⟨fun j hj => ?_, fun sub => ?_⟩
  · simp only [Finset.mem_filter, Nat.testBit_or, Bool.or_eq_false_iff] at hj ⊢
    exact ⟨hj.1, hj.2.1⟩
  · have mem : k ∈ (Finset.range (n + 1)).filter fun k => set.testBit k = false :=
      Finset.mem_filter.mpr ⟨Finset.mem_range.mpr (Nat.lt_succ_of_le (within k added)), absent⟩
    have kept := (Finset.mem_filter.mp (sub mem)).2
    rw [Nat.testBit_or, added, Bool.or_true] at kept
    cases kept

variable {step : Nat → Nat}

theorem testBit_closure_of_testBit {k : Nat} (fuel : Nat) {set : Nat} (mem : set.testBit k = true) :
    (closure step fuel set).testBit k = true := by
  induction fuel generalizing set with
  | zero => exact mem
  | succ fuel ih =>
      rw [closure]
      split
      · exact mem
      · exact ih (by rw [Nat.testBit_or, mem, Bool.true_or])

/-- What holds of a set and passes from any set to the next round holds of the closure. -/
theorem closure_induction {P : Nat → Prop} (fuel : Nat) {set : Nat}
    (start : ∀ k, set.testBit k = true → P k)
    (next : ∀ s, (∀ k, s.testBit k = true → P k) → ∀ k, (step s).testBit k = true → P k) :
    ∀ k, (closure step fuel set).testBit k = true → P k := by
  induction fuel generalizing set with
  | zero => exact start
  | succ fuel ih =>
      rw [closure]
      split
      · exact start
      · refine ih fun k mem => ?_
        rw [Nat.testBit_or, Bool.or_eq_true] at mem
        exact mem.elim (start k) (next set start k)

/-- With a round for each missing position the closure is closed. -/
theorem closure_closed {n fuel set : Nat} (bounded : ∀ s, Within n s → Within n (step s))
    (within : Within n set) (enough : missing n set ≤ fuel) {k : Nat}
    (mem : (step (closure step fuel set)).testBit k = true) :
    (closure step fuel set).testBit k = true := by
  induction fuel generalizing set with
  | zero =>
      have full : (Finset.range (n + 1)).filter (fun k => set.testBit k = false) = ∅ :=
        Finset.card_eq_zero.mp (Nat.le_zero.mp enough)
      have low := bounded set within k mem
      have here := Finset.filter_eq_empty_iff.mp full (Finset.mem_range.mpr (Nat.lt_succ_of_le low))
      exact Bool.eq_true_of_not_eq_false here
  | succ fuel ih =>
      rw [closure] at mem ⊢
      split at mem
      next same =>
        rw [if_pos same]
        rw [← same, Nat.testBit_or, mem, Bool.or_true]
      next new =>
        rw [if_neg new]
        have less := missing_or_lt (bounded set within) new
        exact ih (within.or (bounded set within)) (by omega) mem

namespace Regex

variable (text : Array Char)

theorem reach_chars (h : Haystack) (s : CharSet) (set : Nat) :
    (Regex.chars s).reach h set = (set &&& h.mask s) <<< 1 := by
  rw [reach]
  split
  next none => rw [none, Nat.zero_and, Nat.zero_shiftLeft]
  next => rfl

theorem reach_look (h : Haystack) (a : Anchor) (set : Nat) :
    (Regex.look a).reach h set = set &&& h.anchorMask a := by
  rw [reach]
  split
  next none => rw [none, Nat.zero_and]
  next => rfl

/-- A search that is exact ends on positions of the text. -/
theorem within_of_exact {r : Regex} {set reached : Nat} (within : Within text.size set)
    (exact : ∀ j, reached.testBit j = true ↔ ∃ i, set.testBit i = true ∧ Matches text r i j) :
    Within text.size reached := by
  intro j mem
  obtain ⟨i, start, here⟩ := (exact j).mp mem
  exact here.le_size (within i start)

/-- The rounds of a repetition reach the end of any number of iterations. -/
theorem testBit_closure_of_matches {greedy : Bool} {r : Regex} {set i j : Nat}
    {step : Nat → Nat} (bounded : ∀ s, Within text.size s → Within text.size (step s))
    (takes : ∀ s, Within text.size s →
      ∀ k, (∃ i, s.testBit i = true ∧ Matches text r i k) → (step s).testBit k = true)
    (within : Within text.size set)
    (start : set.testBit i = true ∨
      (closure step (text.size + 1) (step set)).testBit i = true)
    (here : Matches text (.plus greedy r) i j) :
    (closure step (text.size + 1) (step set)).testBit j = true := by
  have first := bounded set within
  have closed := fun k => closure_closed (k := k) bounded first (missing_le _ _)
  have inside : Within text.size (closure step (text.size + 1) (step set)) :=
    closure_induction _ first bounded
  have iteration : ∀ {i k}, (set.testBit i = true ∨
      (closure step (text.size + 1) (step set)).testBit i = true) → Matches text r i k →
        (closure step (text.size + 1) (step set)).testBit k = true := by
    intro i k start body
    rcases start with start | start
    · exact testBit_closure_of_testBit _ (takes set within k ⟨i, start, body⟩)
    · exact closed k (takes _ inside k ⟨i, start, body⟩)
  generalize repeated : Regex.plus greedy r = p at here
  induction here with
  | once body =>
      cases repeated
      exact iteration start body
  | again body _ _ ih =>
      cases repeated
      exact ih (.inr (iteration start body)) rfl
  | empty | chars | look | seq | altFirst | altSecond => cases repeated

/-- The ends of the matches that start in a set of positions. -/
theorem reach_iff (r : Regex) {set : Nat} (within : Within text.size set) (j : Nat) :
    (r.reach (.ofArray text) set).testBit j = true ↔
      ∃ i, set.testBit i = true ∧ Matches text r i j := by
  induction r generalizing set j with
  | empty =>
      refine ⟨fun mem => ⟨j, mem, .empty j⟩, ?_⟩
      rintro ⟨i, mem, here⟩
      cases here
      exact mem
  | chars s =>
      rw [reach_chars, Nat.testBit_shiftLeft, Nat.testBit_and, Haystack.testBit_mask]
      constructor
      · intro mem
        simp only [Bool.and_eq_true, decide_eq_true_eq, ahead, Option.any_eq_true] at mem
        obtain ⟨positive, start, c, at_i, inside⟩ := mem
        have here := Matches.chars at_i inside
        rw [Nat.sub_add_cancel positive] at here
        exact ⟨j - 1, start, here⟩
      · rintro ⟨i, start, here⟩
        cases here with
        | chars at_i inside => simp [start, ahead, at_i, inside]
  | look a =>
      rw [reach_look, Nat.testBit_and, Bool.and_eq_true]
      constructor
      · rintro ⟨start, holds⟩
        rw [Haystack.testBit_anchorMask text a (within j start)] at holds
        exact ⟨j, start, .look holds⟩
      · rintro ⟨i, start, here⟩
        cases here with
        | look holds =>
            rw [Haystack.testBit_anchorMask text a (within _ start)]
            exact ⟨start, holds⟩
  | seq r s first second =>
      have middle := within_of_exact text within (first within)
      rw [reach, second middle]
      constructor
      · rintro ⟨k, mem, there⟩
        obtain ⟨i, start, here⟩ := (first within k).mp mem
        exact ⟨i, start, .seq here there⟩
      · rintro ⟨i, start, here⟩
        cases here with
        | seq here there => exact ⟨_, (first within _).mpr ⟨i, start, here⟩, there⟩
  | alt r s first second =>
      rw [reach, Nat.testBit_or, Bool.or_eq_true, first within, second within]
      constructor
      · rintro (⟨i, start, here⟩ | ⟨i, start, here⟩)
        · exact ⟨i, start, .altFirst here⟩
        · exact ⟨i, start, .altSecond here⟩
      · rintro ⟨i, start, here⟩
        cases here with
        | altFirst here => exact .inl ⟨i, start, here⟩
        | altSecond here => exact .inr ⟨i, start, here⟩
  | plus greedy r body =>
      rw [reach]
      split
      next none =>
        subst none
        simp
      next =>
        have bounded : ∀ s, Within text.size s → Within text.size (r.reach (.ofArray text) s) :=
          fun s low => within_of_exact text low (body low)
        constructor
        · refine closure_induction (P := fun j => ∃ i, set.testBit i = true ∧
            Matches text (.plus greedy r) i j) _ (fun k mem => ?_) (fun s all k mem => ?_) j
          · obtain ⟨i, start, here⟩ := (body within k).mp mem
            exact ⟨i, start, .once here⟩
          · have low : Within text.size s := fun k mem => by
              obtain ⟨i, start, here⟩ := all k mem
              exact here.le_size (within i start)
            obtain ⟨k', mem', last⟩ := (body low k).mp mem
            obtain ⟨i, start, here⟩ := all k' mem'
            exact ⟨i, start, here.plus_snoc last⟩
        · rintro ⟨i, start, here⟩
          exact testBit_closure_of_matches text bounded (fun s low k => (body low k).mpr) within
            (.inl start) here

/-- The ends of all matches in the text. -/
theorem reach_all_iff (r : Regex) (j : Nat) :
    (r.reach (.ofArray text) (Haystack.ofArray text).all).testBit j = true ↔
      ∃ i, i ≤ text.size ∧ Matches text r i j := by
  have within : Within text.size (Haystack.ofArray text).all := by
    intro k mem
    rwa [Haystack.testBit_all, decide_eq_true_eq] at mem
  simp only [reach_iff text r within, Haystack.testBit_all, decide_eq_true_eq]

/-- Whether the expression matches anywhere in the text. -/
theorem isMatch_iff (r : Regex) :
    r.isMatch (.ofArray text) = true ↔ ∃ i j, i ≤ text.size ∧ Matches text r i j := by
  have reached : r.isMatch (.ofArray text) = true ↔
      ∃ j, (r.reach (.ofArray text) (Haystack.ofArray text).all).testBit j = true := by
    rw [isMatch, decide_eq_true_eq]
    exact ⟨Nat.exists_testBit_of_ne_zero, fun ⟨j, mem⟩ zero => by simp [zero] at mem⟩
  rw [reached]
  simp only [reach_all_iff]
  exact exists_comm

end Regex
end Pattern
end FeatureScan
