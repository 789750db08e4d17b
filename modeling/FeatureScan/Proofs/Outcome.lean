/-!
Taking apart computations that may fail.
-/

namespace FeatureScan

variable {ε α β : Type}

@[simp] theorem ok_bind (a : α) (f : α → Except ε β) : (Except.ok a >>= f) = f a := rfl

@[simp] theorem error_bind (e : ε) (f : α → Except ε β) :
    ((Except.error e : Except ε α) >>= f) = .error e := rfl

theorem bind_eq_ok {x : Except ε α} {f : α → Except ε β} {b : β} :
    (x >>= f) = .ok b ↔ ∃ a, x = .ok a ∧ f a = .ok b := by
  cases x with
  | error e => simp
  | ok a => simp

theorem map_eq_ok {x : Except ε α} {f : α → β} {b : β} :
    x.map f = .ok b ↔ ∃ a, x = .ok a ∧ f a = b := by
  cases x with
  | error e => simp [Except.map]
  | ok a => simp [Except.map]

theorem mapError_eq_ok {ε' : Type} {x : Except ε α} {f : ε → ε'} {a : α} :
    x.mapError f = .ok a ↔ x = .ok a := by
  constructor <;> intro h
  all_goals cases x <;> cases h
  all_goals rfl

theorem toOption_eq_some {x : Except ε α} {a : α} : x.toOption = some a ↔ x = .ok a := by
  cases x <;> simp [Except.toOption]

theorem map_eq_error {x : Except ε α} {f : α → β} {e : ε} :
    x.map f = .error e ↔ x = .error e := by
  cases x <;> simp [Except.map]

section

variable {f : α → Option β}

theorem isSome_mapM_iff {list : List α} :
    (list.mapM f).isSome = true ↔ ∀ a ∈ list, (f a).isSome = true := by
  induction list with
  | nil => simp [pure]
  | cons a rest ih =>
      rw [List.mapM_cons, List.forall_mem_cons, ← ih]
      cases f a <;> cases rest.mapM f <;> simp [pure]

theorem exists_of_mem_mapM {list : List α} {results : List β} (h : list.mapM f = some results)
    {b : β} (mem : b ∈ results) : ∃ a ∈ list, f a = some b := by
  induction list generalizing results with
  | nil =>
      cases h
      cases mem
  | cons a rest ih =>
      simp only [List.mapM_cons, Option.bind_eq_bind, Option.bind_eq_some_iff] at h
      obtain ⟨first, here, others, there, same⟩ := h
      cases same
      rcases List.mem_cons.mp mem with rfl | mem
      · exact ⟨a, List.mem_cons_self, here⟩
      · obtain ⟨c, hc, found⟩ := ih there mem
        exact ⟨c, List.mem_cons_of_mem a hc, found⟩

theorem mem_of_mapM {list : List α} {results : List β} (h : list.mapM f = some results) {a : α}
    (mem : a ∈ list) {b : β} (here : f a = some b) : b ∈ results := by
  induction list generalizing results with
  | nil => cases mem
  | cons first rest ih =>
      simp only [List.mapM_cons, Option.bind_eq_bind, Option.bind_eq_some_iff] at h
      obtain ⟨c, found, others, there, same⟩ := h
      cases same
      cases mem with
      | head =>
          cases found.symm.trans here
          exact List.mem_cons_self
      | tail _ mem => exact List.mem_cons_of_mem c (ih there mem)

end

end FeatureScan
