import FeatureScan.Store.Memory
import FeatureScan.Proofs.Json.RoundTrip

/-!
A store is meant to be a map from its keys to texts. Operations are described by what they
do to that map, so whatever uses a store need not know how it keeps the map.
-/

namespace FeatureScan

namespace Store

variable {σ α β : Type}

/-- The answer of an operation and the state that it leaves. -/
def run (x : ExceptT StoreFault (StateM σ) α) (st : σ) : Except StoreFault α × σ :=
  (ExceptT.run x).run st

/-- In a state that holds the map `d` the operation answers `r` and leaves one that holds
the map `d'`. -/
def Yields (Holds : σ → Dictionary String → Prop) (x : ExceptT StoreFault (StateM σ) α)
    (d : Dictionary String) (r : Except StoreFault α) (d' : Dictionary String) : Prop :=
  ∀ st, Holds st d → ∃ st', run x st = (r, st') ∧ Holds st' d'

section Yields

variable {Holds : σ → Dictionary String → Prop} {d d' d'' : Dictionary String}

theorem yields_pure (a : α) : Yields Holds (pure a) d (.ok a) d :=
  fun st h => ⟨st, rfl, h⟩

theorem yields_throw (fault : StoreFault) :
    Yields Holds (throw fault : ExceptT StoreFault (StateM σ) α) d (.error fault) d :=
  fun st h => ⟨st, rfl, h⟩

theorem Yields.answer {x : ExceptT StoreFault (StateM σ) α} {r : Except StoreFault α}
    (yields : Yields Holds x d r d') {st : σ} (h : Holds st d) : (run x st).1 = r := by
  obtain ⟨st', done, _⟩ := yields st h
  rw [done]

theorem Yields.holds {x : ExceptT StoreFault (StateM σ) α} {r : Except StoreFault α}
    (yields : Yields Holds x d r d') {st : σ} (h : Holds st d) : Holds (run x st).2 d' := by
  obtain ⟨st', done, h'⟩ := yields st h
  rw [done]
  exact h'

theorem run_bind (x : ExceptT StoreFault (StateM σ) α) (f : α → ExceptT StoreFault (StateM σ) β)
    (st : σ) :
    run (x >>= f) st =
      match run x st with
      | (.ok a, st') => run (f a) st'
      | (.error fault, st') => (.error fault, st') := by
  rw [run, ExceptT.run_bind, StateT.run_bind, ← run]
  change (match run x st with | (r, st') => _) = _
  cases run x st with
  | mk r st' => cases r <;> rfl

theorem Yields.bind {x : ExceptT StoreFault (StateM σ) α}
    {f : α → ExceptT StoreFault (StateM σ) β} {a : α} {r : Except StoreFault β}
    (first : Yields Holds x d (.ok a) d') (second : Yields Holds (f a) d' r d'') :
    Yields Holds (x >>= f) d r d'' := by
  intro st h
  obtain ⟨st', hx, h'⟩ := first st h
  obtain ⟨st'', hf, h''⟩ := second st' h'
  refine ⟨st'', ?_, h''⟩
  rw [run_bind, hx]
  exact hf

theorem Yields.bind_error {x : ExceptT StoreFault (StateM σ) α} {fault : StoreFault}
    (first : Yields Holds x d (.error fault) d') (f : α → ExceptT StoreFault (StateM σ) β) :
    Yields Holds (x >>= f) d (.error fault) d' := by
  intro st h
  obtain ⟨st', hx, h'⟩ := first st h
  refine ⟨st', ?_, h'⟩
  rw [run_bind, hx]

theorem run_tryCatch (x : ExceptT StoreFault (StateM σ) α)
    (handle : StoreFault → ExceptT StoreFault (StateM σ) α) (st : σ) :
    run (tryCatch x handle) st =
      match run x st with
      | (.ok a, st') => (.ok a, st')
      | (.error fault, st') => run (handle fault) st' := by
  rw [run, ExceptT.run_tryCatch, StateT.run_bind, ← run]
  change (match run x st with | (r, st') => _) = _
  cases run x st with
  | mk r st' => cases r <;> rfl

theorem Yields.tryCatch_ok {x : ExceptT StoreFault (StateM σ) α} {a : α}
    (first : Yields Holds x d (.ok a) d')
    (handle : StoreFault → ExceptT StoreFault (StateM σ) α) :
    Yields Holds (tryCatch x handle) d (.ok a) d' := by
  intro st h
  obtain ⟨st', hx, h'⟩ := first st h
  refine ⟨st', ?_, h'⟩
  rw [run_tryCatch, hx]

theorem Yields.tryCatch_error {x : ExceptT StoreFault (StateM σ) α} {fault : StoreFault}
    {handle : StoreFault → ExceptT StoreFault (StateM σ) α} {r : Except StoreFault α}
    (first : Yields Holds x d (.error fault) d') (second : Yields Holds (handle fault) d' r d'') :
    Yields Holds (tryCatch x handle) d r d'' := by
  intro st h
  obtain ⟨st', hx, h'⟩ := first st h
  obtain ⟨st'', hf, h''⟩ := second st' h'
  refine ⟨st'', ?_, h''⟩
  rw [run_tryCatch, hx]
  exact hf

theorem yields_checkKey {key : String} (valid : isKey key = true) :
    Yields Holds (checkKey key) d (.ok ()) d := by
  rw [checkKey, if_pos valid]
  exact yields_pure ()

theorem yields_checkKey_invalid {key : String} (invalid : isKey key = false) :
    Yields Holds (checkKey key) d (.error (.invalidKey key)) d := by
  rw [checkKey, invalid]
  exact yields_throw _

end Yields

/-- The store acts as a map, on the states that hold one, when it is asked for the text of a valid
key or given one. What it does with other keys than those of `Keys` is not said; by default these
are all. -/
structure GetsAndSets (s : Store (StateM σ)) (Holds : σ → Dictionary String → Prop)
    (Keys : String → Prop := fun _ => True) : Prop where
  get : ∀ d key, isKey key = true → Keys key → Yields Holds (s.get key) d (.ok (d.get? key)) d
  set : ∀ d key text, isKey key = true → Keys key →
    Yields Holds (s.set key text) d (.ok ()) (d.insert key text)

/-- The store acts as a map, on the states that hold one. A key that is not valid is
refused and changes nothing. -/
structure Implements (s : Store (StateM σ)) (Holds : σ → Dictionary String → Prop)
    (Keys : String → Prop := fun _ => True) : Prop where
  get : ∀ d key, isKey key = true → Keys key → Yields Holds (s.get key) d (.ok (d.get? key)) d
  set : ∀ d key text, isKey key = true → Keys key →
    Yields Holds (s.set key text) d (.ok ()) (d.insert key text)
  remove : ∀ d key, isKey key = true → Keys key →
    Yields Holds (s.remove key) d (.ok ()) (d.erase key)
  get_invalid : ∀ d key, isKey key = false →
    Yields Holds (s.get key) d (.error (.invalidKey key)) d
  set_invalid : ∀ d key text, isKey key = false →
    Yields Holds (s.set key text) d (.error (.invalidKey key)) d
  remove_invalid : ∀ d key, isKey key = false →
    Yields Holds (s.remove key) d (.error (.invalidKey key)) d

theorem Implements.getsAndSets {s : Store (StateM σ)} {Holds : σ → Dictionary String → Prop}
    {Keys : String → Prop} (map : s.Implements Holds Keys) : s.GetsAndSets Holds Keys :=
  ⟨map.get, map.set⟩

theorem memory_implements : memory.Implements Eq where
  get d key valid _ := (yields_checkKey valid).bind fun st same => ⟨st, by rw [← same]; rfl, same⟩
  set d key text valid _ :=
    (yields_checkKey valid).bind fun st same => ⟨st.insert key text, rfl, by rw [same]⟩
  remove d key valid _ :=
    (yields_checkKey valid).bind fun st same => ⟨st.erase key, rfl, by rw [same]⟩
  get_invalid _ _ invalid := (yields_checkKey_invalid invalid).bind_error _
  set_invalid _ _ _ invalid := (yields_checkKey_invalid invalid).bind_error _
  remove_invalid _ _ invalid := (yields_checkKey_invalid invalid).bind_error _

end Store
end FeatureScan
