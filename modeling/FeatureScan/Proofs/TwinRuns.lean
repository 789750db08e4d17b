import FeatureScan.Proofs.FileEffects

/-!
Two runs of one computation. They are followed together, from states that are related, as long as
what they ask gets the same answers; the rules are those for one run, taken twice.
-/

namespace FeatureScan

section

variable {σ ε ε' α β : Type}

/-- From states that are related before, the computation answers the same, and where it succeeds
the states that it leaves are related after. -/
def Twins (before after : σ → σ → Prop) (x : ExceptT ε (StateM σ) α) : Prop :=
  ∀ st st', before st st' → (ends x st).1 = (ends x st').1 ∧
    ∀ a, (ends x st).1 = .ok a → after (ends x st).2 (ends x st').2

variable {before middle after : σ → σ → Prop}

theorem twins_pure (a : α) : Twins before before (pure a : ExceptT ε (StateM σ) α) :=
  fun _ _ related => ⟨rfl, fun _ _ => related⟩

theorem twins_throw (e : ε) : Twins before after (throw e : ExceptT ε (StateM σ) α) :=
  fun _ _ _ => ⟨rfl, nofun⟩

theorem Twins.lift {x : StateM σ α}
    (h : ∀ st st', before st st' →
      (x.run st).1 = (x.run st').1 ∧ after (x.run st).2 (x.run st').2) :
    Twins before after (liftM x : ExceptT ε (StateM σ) α) := by
  intro st st' related
  obtain ⟨same, kept⟩ := h st st' related
  exact ⟨congrArg Except.ok same, fun _ _ => kept⟩

theorem Twins.bind {x : ExceptT ε (StateM σ) α} {f : α → ExceptT ε (StateM σ) β}
    (first : Twins before middle x) (later : ∀ a, Twins middle after (f a)) :
    Twins before after (x >>= f) := by
  intro st st' related
  obtain ⟨same, kept⟩ := first st st' related
  cases result : (ends x st).1 with
  | ok a =>
      rw [ends_bind_ok result, ends_bind_ok (same.symm.trans result)]
      exact later a _ _ (kept a result)
  | error e =>
      rw [ends_bind_error result, ends_bind_error (same.symm.trans result)]
      exact ⟨rfl, nofun⟩

theorem Twins.adapt {x : ExceptT ε (StateM σ) α} (h : Twins before after x) (f : ε → ε') :
    Twins before after (x.adapt f) := by
  intro st st' related
  obtain ⟨same, kept⟩ := h st st' related
  rw [ends_adapt, ends_adapt, same]
  refine ⟨rfl, fun a done => ?_⟩
  cases result : (ends x st').1 with
  | ok b => exact kept b (same.trans result)
  | error e =>
      rw [result] at done
      cases done

theorem Twins.anyhow {x : ExceptT ε (StateM σ) α} (h : Twins before after x) :
    Twins before (fun _ _ => True) x :=
  fun st st' related => ⟨(h st st' related).1, fun _ _ => trivial⟩

end

end FeatureScan
