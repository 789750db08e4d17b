import FeatureScan.Proofs.Pattern.Matches
import FeatureScan.Proofs.Pattern.Search

/-!
A search misses no match. The walk over the iterations of a repetition enters a position only
once, but whatever can be reached from a position that it passes over is entered on another way.
-/

namespace FeatureScan
namespace Pattern

namespace Walk

/-- What a walk has entered since it was `before` is dealt with: it is an end of the repetition,
and unless the walk began there, each further iteration from it has been entered too. -/
structure Settles (step : Nat → List Nat) (start : Nat) (before after : Walk) : Prop where
  seen : ∀ x ∈ before.seen, x ∈ after.seen
  ends : ∀ x ∈ before.ends, x ∈ after.ends
  entered : ∀ x ∈ after.seen, x ∈ before.seen ∨
    x ∈ after.ends ∧ (x = start ∨ ∀ y ∈ step x, y ∈ after.seen)

variable {step : Nat → List Nat} {start : Nat}

theorem Settles.refl (w : Walk) : Settles step start w w :=
  ⟨fun _ mem => mem, fun _ mem => mem, fun _ mem => .inl mem⟩

theorem Settles.trans {u v w : Walk} (first : Settles step start u v)
    (second : Settles step start v w) : Settles step start u w where
  seen x mem := second.seen x (first.seen x mem)
  ends x mem := second.ends x (first.ends x mem)
  entered x mem := by
    rcases second.entered x mem with mem | settled
    · rcases first.entered x mem with mem | ⟨ended, steps⟩
      · exact .inl mem
      · exact .inr ⟨second.ends x ended,
          steps.imp_right fun all y hy => second.seen y (all y hy)⟩
    · exact .inr settled

/-- Entering a position, going on from there and noting it as an end settles it. -/
theorem Settles.enter {w inside after out : Walk} {x : Nat} (inner : Settles step start inside after)
    (seen : inside.seen = x :: w.seen) (kept : ∀ y ∈ w.ends, y ∈ inside.ends)
    (same : out.seen = after.seen) (more : ∀ y ∈ after.ends, y ∈ out.ends) (here : x ∈ out.ends)
    (steps : x = start ∨ ∀ y ∈ step x, y ∈ after.seen) : Settles step start w out where
  seen y mem := by
    rw [same]
    exact inner.seen y (seen ▸ List.mem_cons_of_mem x mem)
  ends y mem := more y (inner.ends y (kept y mem))
  entered y mem := by
    rw [same] at mem ⊢
    rcases inner.entered y mem with mem | ⟨ended, onward⟩
    · rw [seen] at mem
      rcases List.mem_cons.mp mem with rfl | mem
      · exact .inr ⟨here, steps⟩
      · exact .inl mem
    · exact .inr ⟨more y ended, onward⟩

theorem foldl_settles {f : Walk → Nat → Walk} {l : List Nat} {w : Walk}
    (each : ∀ v, Settles step start w v → ∀ y ∈ l,
      Settles step start v (f v y) ∧ y ∈ (f v y).seen) :
    Settles step start w (l.foldl f w) ∧ ∀ y ∈ l, y ∈ (l.foldl f w).seen := by
  induction l generalizing w with
  | nil => exact ⟨.refl w, nofun⟩
  | cons x rest ih =>
      obtain ⟨first, entered⟩ := each w (.refl w) x List.mem_cons_self
      obtain ⟨others, all⟩ := ih fun v later y mem =>
        each v (first.trans later) y (List.mem_cons_of_mem x mem)
      refine ⟨first.trans others, List.forall_mem_cons.mpr ⟨others.seen x entered, all⟩⟩

/-- Iterations go forward, so what is left of the text bounds the depth of the walk. -/
theorem visit_settles {size : Nat} (forward : ∀ x ≤ size, ∀ y ∈ step x, x ≤ y ∧ y ≤ size)
    (greedy : Bool) {fuel : Nat} {w : Walk} {x : Nat} (bound : x ≤ size)
    (enough : x ∈ w.seen ∨ size + 1 - x ≤ fuel) :
    Settles step start w (visit step greedy start fuel w x) ∧
      x ∈ (visit step greedy start fuel w x).seen := by
  induction fuel generalizing w x with
  | zero => exact ⟨.refl w, enough.resolve_right (by omega)⟩
  | succ fuel ih =>
      rw [visit]
      split
      next again => exact ⟨.refl w, by simpa using again⟩
      next fresh =>
        have far : size + 1 - x ≤ fuel + 1 := enough.resolve_left (by simpa using fresh)
        have onward : ∀ inside : Walk, x ∈ inside.seen →
            Settles step start inside ((step x).foldl (visit step greedy start fuel) inside) ∧
              ∀ y ∈ step x, y ∈ ((step x).foldl (visit step greedy start fuel) inside).seen := by
          intro inside mem
          refine foldl_settles fun v later y hy => ?_
          obtain ⟨low, high⟩ := forward x bound y hy
          refine ih high ?_
          rcases Nat.eq_or_lt_of_le low with rfl | further
          · exact .inl (later.seen x mem)
          · exact .inr (by omega)
        have kept : ∀ y ∈ w.ends, y ∈ x :: w.ends := fun y mem => List.mem_cons_of_mem x mem
        split
        next at_start =>
          refine ⟨?_, List.mem_cons_self⟩
          exact (Settles.refl ⟨x :: w.seen, x :: w.ends⟩).enter rfl kept rfl (fun y mem => mem)
            List.mem_cons_self (.inl at_start)
        · split
          · obtain ⟨inner, steps⟩ := onward ⟨x :: w.seen, w.ends⟩ List.mem_cons_self
            refine ⟨inner.enter rfl (fun y mem => mem) rfl
              (fun y mem => List.mem_cons_of_mem x mem) List.mem_cons_self (.inr steps), ?_⟩
            exact inner.seen x List.mem_cons_self
          · obtain ⟨inner, steps⟩ := onward ⟨x :: w.seen, x :: w.ends⟩ List.mem_cons_self
            refine ⟨inner.enter rfl kept rfl (fun y mem => mem)
              (inner.ends x List.mem_cons_self) (.inr steps), ?_⟩
            exact inner.seen x List.mem_cons_self

end Walk

namespace Regex

variable {text : Array Char} {r s : Regex} {i j : Nat}

theorem ends_forward (bound : i ≤ text.size) (h : j ∈ r.ends text i) : i ≤ j ∧ j ≤ text.size :=
  ⟨(matches_of_mem_ends h).le, (matches_of_mem_ends h).le_size bound⟩

/-- The ends of a repetition are closed under iterations. -/
theorem ends_plus_closed (greedy : Bool) (r : Regex) (bound : i ≤ text.size) :
    ∃ seen : List Nat, (∀ y ∈ r.ends text i, y ∈ seen) ∧
      ∀ x ∈ seen, x ∈ (Regex.plus greedy r).ends text i ∧ ∀ y ∈ r.ends text x, y ∈ seen := by
  obtain ⟨settled, first⟩ := Walk.foldl_settles (w := ⟨[], []⟩) (l := r.ends text i)
    (f := Walk.visit (r.ends text) greedy i (text.size + 2 - i))
    fun v (_ : Walk.Settles (r.ends text) i _ v) y hy => by
      obtain ⟨low, high⟩ := ends_forward bound hy
      exact Walk.visit_settles (fun x hx y hy => ends_forward hx hy) greedy high (.inr (by omega))
  refine ⟨_, first, fun x mem => ?_⟩
  obtain ⟨ended, onward⟩ := (settled.entered x mem).resolve_left (List.not_mem_nil)
  refine ⟨?_, ?_⟩
  · rw [ends, List.mem_reverse]
    exact ended
  · rcases onward with rfl | onward
    · exact first
    · exact onward

theorem mem_ends_of_matches (bound : i ≤ text.size) (h : Matches text r i j) :
    j ∈ r.ends text i := by
  induction r generalizing i j with
  | empty =>
      cases h
      exact List.mem_singleton_self i
  | chars set =>
      cases h with
      | chars at_i mem =>
          rw [ends, at_i, Option.any_some, mem]
          exact List.mem_singleton_self _
  | look anchor =>
      cases h with
      | look here =>
          rw [ends, here]
          exact List.mem_singleton_self _
  | seq r s first second =>
      cases h with
      | seq front back =>
          exact mem_ends_seq.mpr ⟨_, first bound front, second (front.le_size bound) back⟩
  | alt r s first second =>
      cases h with
      | altFirst here => exact mem_ends_alt.mpr (.inl (first bound here))
      | altSecond here => exact mem_ends_alt.mpr (.inr (second bound here))
  | plus greedy r body =>
      obtain ⟨seen, first, closed⟩ := ends_plus_closed greedy r bound
      -- From a position whose iterations are all seen, a row of iterations stays within them.
      have row : ∀ {x k}, x ≤ text.size → (∀ y ∈ r.ends text x, y ∈ seen) →
          Matches text (.plus greedy r) x k → k ∈ seen := by
        intro x k inside onward here
        generalize repeated : Regex.plus greedy r = p at here
        induction here with
        | once here =>
            cases repeated
            exact onward _ (body inside here)
        | again here _ _ ih =>
            cases repeated
            exact ih (here.le_size inside) (closed _ (onward _ (body inside here))).2 rfl
        | empty | chars | look | seq | altFirst | altSecond => cases repeated
      exact (closed j (row bound first h)).1

/-- A search finds the ends of matches, and all of them. -/
theorem mem_ends_iff (bound : i ≤ text.size) : j ∈ r.ends text i ↔ Matches text r i j :=
  ⟨matches_of_mem_ends, mem_ends_of_matches bound⟩

theorem startsAt_iff (bound : i ≤ text.size) : r.StartsAt text i ↔ ∃ j, Matches text r i j := by
  rw [StartsAt, matchAt, ne_eq, Option.map_eq_none_iff, List.head?_eq_none_iff]
  constructor
  · intro some_end
    obtain ⟨j, mem⟩ := List.exists_mem_of_ne_nil _ some_end
    exact ⟨j, (mem_ends_iff bound).mp mem⟩
  · rintro ⟨j, here⟩
    exact List.ne_nil_of_mem ((mem_ends_iff bound).mpr here)

end Regex
end Pattern
end FeatureScan
