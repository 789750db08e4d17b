import FeatureScan.Pattern.Search

/-!
The ends that a search gives are ends of matches. For a repetition the walk over its
iterations keeps to what any number of them can reach.
-/

namespace FeatureScan
namespace Pattern
namespace Regex

/-- Whether all sets and all anchors of an expression pass a check. -/
def all (sets : CharSet → Bool) (anchors : Anchor → Bool) : Regex → Bool
  | .empty => true
  | .chars s => sets s
  | .look a => anchors a
  | .seq r s | .alt r s => r.all sets anchors && s.all sets anchors
  | .plus _ r => r.all sets anchors

variable {text : Array Char}

theorem Matches.le {r : Regex} {i j : Nat} (h : Matches text r i j) : i ≤ j := by
  induction h with
  | empty | look => exact Nat.le_refl _
  | chars => exact Nat.le_succ _
  | seq _ _ first second => exact Nat.le_trans first second
  | altFirst _ ih | altSecond _ ih | once _ ih => exact ih
  | again _ _ body more => exact Nat.le_trans body more

theorem Matches.le_size {r : Regex} {i j : Nat} (h : Matches text r i j) (bound : i ≤ text.size) :
    j ≤ text.size := by
  induction h with
  | empty | look => exact bound
  | chars at_i => exact (Array.getElem?_eq_some_iff.mp at_i).1
  | seq _ _ first second => exact second (first bound)
  | altFirst _ ih | altSecond _ ih | once _ ih => exact ih bound
  | again _ _ body more => exact more (body bound)

/-- One more iteration at the end. -/
theorem Matches.plus_snoc {greedy : Bool} {r : Regex} {i j k : Nat}
    (h : Matches text (.plus greedy r) i j) (last : Matches text r j k) :
    Matches text (.plus greedy r) i k := by
  generalize repeated : Regex.plus greedy r = p at h
  induction h with
  | once body =>
      cases repeated
      exact .again body (.once last)
  | again body _ _ ih =>
      cases repeated
      exact .again body (ih last rfl)
  | empty | chars | look | seq | altFirst | altSecond => cases repeated

/-- A walk stays within what is closed under its steps. -/
theorem visit_ends {step : Nat → List Nat} {P : Nat → Prop} (closed : ∀ x, P x → ∀ y ∈ step x, P y)
    (greedy : Bool) (start fuel : Nat) {w : Walk} {i : Nat} (here : P i) (before : ∀ e ∈ w.ends, P e) :
    ∀ e ∈ (Walk.visit step greedy start fuel w i).ends, P e := by
  induction fuel generalizing w i with
  | zero => exact before
  | succ fuel ih =>
      have all : ∀ w : Walk, (∀ e ∈ w.ends, P e) →
          ∀ e ∈ ((step i).foldl (Walk.visit step greedy start fuel) w).ends, P e :=
        fun w hw => List.foldlRecOn (motive := fun v => ∀ e ∈ Walk.ends v, P e) (step i) _ hw
          fun _ hv y hy => ih (closed i here y hy) hv
      have added : ∀ l : List Nat, (∀ e ∈ l, P e) → ∀ e ∈ i :: l, P e := by
        intro l hl e he
        rcases List.mem_cons.mp he with rfl | he
        · exact here
        · exact hl e he
      unfold Walk.visit
      split
      · exact before
      · dsimp only
        split
        · exact added _ before
        · split
          · exact added _ (all _ before)
          · exact all _ (added _ before)

theorem mem_ends_seq {r s : Regex} {i j : Nat} :
    j ∈ (Regex.seq r s).ends text i ↔ ∃ k ∈ r.ends text i, j ∈ s.ends text k := by
  rw [ends]
  split
  next none => simp [none]
  next k only => simp [only]
  next => rw [List.mem_eraseDups, List.mem_flatMap]

theorem mem_ends_alt {r s : Regex} {i j : Nat} :
    j ∈ (Regex.alt r s).ends text i ↔ j ∈ r.ends text i ∨ j ∈ s.ends text i := by
  rw [ends]
  split
  next none => simp [none]
  next => rw [List.mem_eraseDups, List.mem_append]

theorem matches_of_mem_ends {r : Regex} {i j : Nat} (h : j ∈ r.ends text i) :
    Matches text r i j := by
  induction r generalizing i j with
  | empty =>
      cases List.mem_singleton.mp h
      exact .empty i
  | chars set =>
      rw [ends] at h
      split at h
      next mem =>
        cases List.mem_singleton.mp h
        obtain ⟨c, at_i, mem⟩ := (Option.any_eq_true _ _).mp mem
        exact .chars at_i mem
      next => cases h
  | look anchor =>
      rw [ends] at h
      split at h
      next here =>
        cases List.mem_singleton.mp h
        exact .look here
      next => cases h
  | seq r s first second =>
      obtain ⟨k, hk, hj⟩ := mem_ends_seq.mp h
      exact .seq (first hk) (second hj)
  | alt r s first second =>
      rcases mem_ends_alt.mp h with h | h
      · exact .altFirst (first h)
      · exact .altSecond (second h)
  | plus greedy r body =>
      rw [ends] at h
      have closed : ∀ x, Matches text (.plus greedy r) i x → ∀ y ∈ r.ends text x,
          Matches text (.plus greedy r) i y := fun x hx y hy => hx.plus_snoc (body hy)
      have all := List.foldlRecOn (motive := fun w => ∀ e ∈ Walk.ends w, Matches text _ i e)
        (r.ends text i) (Walk.visit (r.ends text) greedy i (text.size + 2 - i)) (b := ⟨[], []⟩)
        (fun e he => nomatch he)
        fun _ hw y hy => visit_ends closed greedy i _ (.once (body hy)) hw
      exact all j (List.mem_reverse.mp h)

end Regex
end Pattern
end FeatureScan
