import FeatureScan.Command.Run
import FeatureScan.Disk
import Mathlib.Data.Set.Insert
import Mathlib.Logic.Relation

/-!
What runs may do to files. A step changes the nodes at a few places, so the steps that a
computation may take bound what it leaves behind, also where a step breaks off halfway. Failures
that come before the first step leave everything as it was.
-/

namespace FeatureScan

/-- The files of a host, as far as they can be seen. -/
abbrev Files := Place → Option Node

namespace Path

/-- The place that the names of a path lead to, one after the other. -/
def goal (p : Path) : Place := p.names.foldl Disk.enter (Disk.start p)

/-- The path leads to the place or through it. -/
def Passes (p : Path) (place : Place) : Prop :=
  ∃ front, front <+: p.names ∧ front.foldl Disk.enter (Disk.start p) = place

end Path

namespace FileStep

/-- What a step may make of the node at a place. A rename takes along what is below. -/
def MayTurn (place : Place) (before after : Option Node) : FileStep → Prop
  | .createDirs dir => dir.Passes place ∧ before = none ∧ after = some .dir
  | .write file _ | .remove file => file.goal = place
  | .rename source target => source.goal <+: place ∨ target.goal <+: place

/-- What a step may make of files, be it done or broken off. -/
def Turns (step : FileStep) (before after : Files) : Prop :=
  ∀ place, after place = before place ∨ step.MayTurn place (before place) (after place)

/-- The step leaves the place alone. -/
def Spares (step : FileStep) (place : Place) : Prop :=
  ∀ before after, ¬ step.MayTurn place before after

end FileStep

namespace Files

/-- Files as these steps may leave them, in any order and any number. -/
def Reach (steps : Set FileStep) : Files → Files → Prop :=
  Relation.ReflTransGen fun before after => ∃ step ∈ steps, step.Turns before after

variable {steps steps' : Set FileStep} {before after : Files} {place : Place}

theorem Reach.mono (more : steps ⊆ steps') (reach : Reach steps before after) :
    Reach steps' before after := by
  refine Relation.ReflTransGen.mono (fun _ _ turned => ?_) _ _ reach
  obtain ⟨step, allowed, turns⟩ := turned
  exact ⟨step, more allowed, turns⟩

theorem Reach.eq_at (spared : ∀ step ∈ steps, step.Spares place)
    (reach : Reach steps before after) : after place = before place := by
  induction reach with
  | refl => rfl
  | tail _ turned ih =>
      obtain ⟨step, allowed, turns⟩ := turned
      cases turns place with
      | inl same => exact same.trans ih
      | inr changed => exact absurd changed (spared step allowed _ _)

theorem Reach.eq_of_empty (reach : Reach ∅ before after) : after = before := by
  funext place
  apply reach.eq_at
  simp

/-- At a place that all steps but the making of a directory spare, a directory may come to
stand where nothing was. -/
theorem Reach.eq_or_made {dir : Path}
    (spared : ∀ step ∈ steps, step = .createDirs dir ∨ step.Spares place)
    (reach : Reach steps before after) :
    after place = before place ∨
      (dir.Passes place ∧ before place = none ∧ after place = some .dir) := by
  induction reach with
  | refl => exact .inl rfl
  | tail _ turned ih =>
      obtain ⟨step, allowed, turns⟩ := turned
      cases turns place with
      | inl same => simpa only [same] using ih
      | inr changed =>
          cases spared step allowed with
          | inr spares => exact absurd changed (spares _ _)
          | inl making =>
              subst making
              obtain ⟨passes, nothing, made⟩ := changed
              cases ih with
              | inl same => exact .inr ⟨passes, same ▸ nothing, made⟩
              | inr before_made =>
                  rw [before_made.2.2] at nothing
                  cases nothing

end Files

/-- A view of the files of a host, which only steps can change, and only as they may. There are
no links: the place of a path is where its names lead. -/
structure Host.Tame {σ : Type} [Host (StateM σ)] (view : σ → Files) : Prop where
  read : ∀ p st, view ((FileSystem.read p : StateM σ _).run st).2 = view st
  input : ∀ st, view ((Host.input : StateM σ _).run st).2 = view st
  now : ∀ st, view ((Host.now : StateM σ _).run st).2 = view st
  freshId : ∀ st, view ((Host.freshId : StateM σ _).run st).2 = view st
  perform : ∀ (step : FileStep) st,
    step.Turns (view st) (view ((FileSystem.perform step : StateM σ _).run st).2)

/-- A host whose answers come from its files and its standard input: what a path reads is decided by
the nodes at the places that it passes, and reading it takes nothing from the input. -/
structure Host.Plain {σ : Type} [Host (StateM σ)] (view : σ → Files) : Prop extends
    Host.Tame view where
  read_congr : ∀ (p : Path) st st', (∀ place, p.Passes place → view st place = view st' place) →
    ((FileSystem.read p : StateM σ _).run st).1 = ((FileSystem.read p : StateM σ _).run st').1
  input_after_read : ∀ (p : Path) st,
    ((Host.input : StateM σ _).run ((FileSystem.read p : StateM σ _).run st).2).1 =
      ((Host.input : StateM σ _).run st).1

section

variable {σ ε ε' α β : Type}

/-- The answer of a computation that may fail, and the state that it leaves. -/
def ends (x : ExceptT ε (StateM σ) α) (st : σ) : Except ε α × σ := x.run.run st

/-- A computation changes files by these steps only. -/
def Performs (view : σ → Files) (steps : Set FileStep) (x : StateM σ α) : Prop :=
  ∀ st, Files.Reach steps (view st) (view (x.run st).2)

/-- All failures of the computation are of this kind. -/
def Raises (kind : ε → Prop) (x : ExceptT ε (StateM σ) α) : Prop :=
  ∀ st e, (ends x st).1 = .error e → kind e

/-- A computation changes files by these steps only. Where it fails with another exit code than
one, which is for what the system refuses, it has changed nothing. -/
structure Settles (view : σ → Files) (exitCode : ε → Nat) (steps : Set FileStep)
    (x : ExceptT ε (StateM σ) α) : Prop where
  performs : Performs view steps x.run
  unchanged : ∀ st e, (ends x st).1 = .error e → exitCode e ≠ 1 → view (ends x st).2 = view st

variable {view : σ → Files} {steps steps' : Set FileStep}

theorem Performs.mono {x : StateM σ α} (more : steps ⊆ steps') (h : Performs view steps x) :
    Performs view steps' x := fun st => (h st).mono more

theorem performs_of_quiet {x : StateM σ α} (quiet : ∀ st, view (x.run st).2 = view st) :
    Performs view steps x := by
  intro st
  rw [quiet st]
  exact .refl

theorem Performs.quiet {x : StateM σ α} (h : Performs view ∅ x) (st : σ) :
    view (x.run st).2 = view st := (h st).eq_of_empty

theorem performs_ret (a : α) : Performs view steps (pure a : StateM σ α) := fun _ => .refl

theorem Performs.then {x : StateM σ α} {f : α → StateM σ β} (first : Performs view steps x)
    (later : ∀ a, Performs view steps (f a)) : Performs view steps (x >>= f) := by
  intro st
  rw [StateT.run_bind]
  exact (first st).trans (later _ _)

theorem ends_bind (x : ExceptT ε (StateM σ) α) (f : α → ExceptT ε (StateM σ) β) (st : σ) :
    ends (x >>= f) st =
      match ends x st with
      | (.ok a, st') => ends (f a) st'
      | (.error e, st') => (.error e, st') := by
  rw [ends, ExceptT.run_bind, StateT.run_bind, ← ends]
  change (match ends x st with | (r, st') => _) = _
  cases ends x st with
  | mk r st' => cases r <;> rfl

theorem ends_bind_ok {x : ExceptT ε (StateM σ) α} {st : σ} {a : α} (done : (ends x st).1 = .ok a)
    (f : α → ExceptT ε (StateM σ) β) : ends (x >>= f) st = ends (f a) (ends x st).2 := by
  rw [ends_bind]
  cases result : ends x st with
  | mk r st' =>
      rw [result] at done
      subst done
      rfl

theorem ends_bind_error {x : ExceptT ε (StateM σ) α} {st : σ} {e : ε}
    (failed : (ends x st).1 = .error e) (f : α → ExceptT ε (StateM σ) β) :
    ends (x >>= f) st = (.error e, (ends x st).2) := by
  rw [ends_bind]
  cases result : ends x st with
  | mk r st' =>
      rw [result] at failed
      subst failed
      rfl

theorem performs_pure (a : α) : Performs view steps (pure a : ExceptT ε (StateM σ) α).run :=
  fun _ => .refl

theorem performs_throw (e : ε) : Performs view steps (throw e : ExceptT ε (StateM σ) α).run :=
  fun _ => .refl

theorem Performs.lift {x : StateM σ α} (h : Performs view steps x) :
    Performs view steps (liftM x : ExceptT ε (StateM σ) α).run := h

theorem Performs.bind {x : ExceptT ε (StateM σ) α} {f : α → ExceptT ε (StateM σ) β}
    (first : Performs view steps x.run) (later : ∀ a, Performs view steps (f a).run) :
    Performs view steps (x >>= f).run := by
  rw [ExceptT.run_bind]
  apply first.then
  intro r
  cases r with
  | ok a => exact later a
  | error e => exact performs_ret _

theorem Performs.adapt {x : ExceptT ε (StateM σ) α} (h : Performs view steps x.run)
    (f : ε → ε') : Performs view steps (x.adapt f).run := h

theorem Performs.catch {x : ExceptT ε (StateM σ) α} {handle : ε → ExceptT ε (StateM σ) α}
    (first : Performs view steps x.run) (later : ∀ e, Performs view steps (handle e).run) :
    Performs view steps (tryCatch x handle).run := by
  rw [ExceptT.run_tryCatch]
  apply first.then
  intro r
  cases r with
  | ok a => exact performs_ret _
  | error e => exact later e

theorem raises_pure {kind : ε → Prop} (a : α) :
    Raises kind (pure a : ExceptT ε (StateM σ) α) := nofun

theorem raises_throw {kind : ε → Prop} {e : ε} (h : kind e) :
    Raises kind (throw e : ExceptT ε (StateM σ) α) := by
  intro st e' same
  cases same
  exact h

theorem raises_lift {kind : ε → Prop} (x : StateM σ α) :
    Raises kind (liftM x : ExceptT ε (StateM σ) α) := nofun

theorem Raises.bind {kind : ε → Prop} {x : ExceptT ε (StateM σ) α}
    {f : α → ExceptT ε (StateM σ) β} (first : Raises kind x) (later : ∀ a, Raises kind (f a)) :
    Raises kind (x >>= f) := by
  intro st e failed
  rw [ends_bind] at failed
  cases result : ends x st with
  | mk r st' =>
      rw [result] at failed
      cases r with
      | ok a => exact later a st' e failed
      | error e' =>
          cases failed
          exact first st e (congrArg Prod.fst result)

theorem ends_adapt (x : ExceptT ε (StateM σ) α) (f : ε → ε') (st : σ) :
    ends (x.adapt f) st = ((ends x st).1.mapError f, (ends x st).2) := rfl

theorem raises_adapt {kind : ε' → Prop} {f : ε → ε'} (all : ∀ e, kind (f e))
    (x : ExceptT ε (StateM σ) α) : Raises kind (x.adapt f) := by
  intro st e failed
  rw [ends_adapt] at failed
  cases result : (ends x st).1 with
  | ok a =>
      rw [result] at failed
      cases failed
  | error e' =>
      rw [result] at failed
      cases failed
      exact all e'

variable {exitCode : ε → Nat}

theorem settles_of_quiet {x : ExceptT ε (StateM σ) α} (quiet : Performs view ∅ x.run) :
    Settles view exitCode steps x where
  performs := quiet.mono (Set.empty_subset steps)
  unchanged st _ _ _ := quiet.quiet st

theorem settles_of_raises {x : ExceptT ε (StateM σ) α} (performs : Performs view steps x.run)
    (raises : Raises (exitCode · = 1) x) : Settles view exitCode steps x where
  performs := performs
  unchanged st e failed other := absurd (raises st e failed) other

/-- What changes nothing may come first. -/
theorem Settles.after {x : ExceptT ε (StateM σ) α} {f : α → ExceptT ε (StateM σ) β}
    (first : Performs view ∅ x.run) (later : ∀ a, Settles view exitCode steps (f a)) :
    Settles view exitCode steps (x >>= f) where
  performs := (first.mono (Set.empty_subset steps)).bind fun a => (later a).performs
  unchanged st e failed other := by
    have same : view (ends x st).2 = view st := first.quiet st
    rw [ends_bind] at failed ⊢
    cases result : ends x st with
    | mk r st' =>
        rw [result] at failed same
        cases r with
        | ok a => exact ((later a).unchanged st' e failed other).trans same
        | error e' => exact same

/-- What neither fails nor changes anything may come last. -/
theorem Settles.thenReturn {x : ExceptT ε (StateM σ) α} (h : Settles view exitCode steps x)
    (f : α → β) : Settles view exitCode steps (do return f (← x)) where
  performs := h.performs.bind fun a => performs_pure (f a)
  unchanged st e failed other := by
    rw [ends_bind] at failed ⊢
    cases result : ends x st with
    | mk r st' =>
        rw [result] at failed
        cases r with
        | ok a => cases failed
        | error e' =>
            cases failed
            have same := h.unchanged st e (congrArg Prod.fst result) other
            rwa [result] at same

theorem Settles.adapt {x : ExceptT ε (StateM σ) α} {exitCode' : ε' → Nat} {f : ε → ε'}
    (h : Settles view exitCode steps x) (kept : ∀ e, exitCode' (f e) = exitCode e) :
    Settles view exitCode' steps (x.adapt f) where
  performs := h.performs.adapt f
  unchanged st e' failed other := by
    rw [ends_adapt] at failed ⊢
    cases result : (ends x st).1 with
    | ok a =>
        rw [result] at failed
        cases failed
    | error e =>
        rw [result] at failed
        cases failed
        exact h.unchanged st e result (kept e ▸ other)

end

end FeatureScan
