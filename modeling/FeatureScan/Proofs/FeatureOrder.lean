import FeatureScan.Feature
import Mathlib.Data.List.Induction

/-!
The order of reports. Among features with distinct identifiers it is strict, so they have
exactly one arrangement, and sorting finds it from any other. Which of the features of one
identifier is kept is decided by their places in the list, before any sorting.
-/

namespace FeatureScan
namespace Support

theorem priority_inj {s t : Support} (h : s.priority = t.priority) : s = t := by
  cases s <;> cases t <;> first | rfl | cases h

end Support

namespace Feature

theorem notAfter_iff {a b : Feature} :
    a.notAfter b = true ↔
      a.support.priority < b.support.priority ∨ (a.support = b.support ∧ a.id ≤ b.id) := by
  simp only [notAfter, Bool.or_eq_true, decide_eq_true_eq, Bool.and_eq_true, beq_iff_eq]
  constructor
  · rintro (h | ⟨h, le⟩)
    · exact Or.inl h
    · exact Or.inr ⟨Support.priority_inj h, le⟩
  · rintro (h | ⟨h, le⟩)
    · exact Or.inl h
    · exact Or.inr ⟨congrArg Support.priority h, le⟩

theorem notAfter_trans (a b c : Feature) (hab : a.notAfter b = true)
    (hbc : b.notAfter c = true) : a.notAfter c = true := by
  rw [notAfter_iff] at *
  rcases hab with hab | ⟨sab, ab⟩ <;> rcases hbc with hbc | ⟨sbc, bc⟩
  · exact Or.inl (Nat.lt_trans hab hbc)
  · exact Or.inl (sbc ▸ hab)
  · exact Or.inl (sab ▸ hbc)
  · exact Or.inr ⟨sab.trans sbc, String.le_trans ab bc⟩

theorem notAfter_total (a b : Feature) : (a.notAfter b || b.notAfter a) = true := by
  rw [Bool.or_eq_true, notAfter_iff, notAfter_iff]
  rcases Nat.lt_trichotomy a.support.priority b.support.priority with h | h | h
  · exact Or.inl (Or.inl h)
  · have same := Support.priority_inj h
    rcases String.le_total a.id b.id with le | le
    · exact Or.inl (Or.inr ⟨same, le⟩)
    · exact Or.inr (Or.inr ⟨same.symm, le⟩)
  · exact Or.inr (Or.inl h)

namespace Precedes

theorem notAfter {a b : Feature} (h : a.Precedes b) : a.notAfter b = true := by
  rw [notAfter_iff]
  rcases h with h | ⟨same, lt⟩
  · exact Or.inl h
  · exact Or.inr ⟨same, String.not_lt.mp (String.lt_asymm lt)⟩

theorem trans {a b c : Feature} (hab : a.Precedes b) (hbc : b.Precedes c) : a.Precedes c := by
  rcases hab with hab | ⟨sab, ab⟩ <;> rcases hbc with hbc | ⟨sbc, bc⟩
  · exact Or.inl (Nat.lt_trans hab hbc)
  · exact Or.inl (sbc ▸ hab)
  · exact Or.inl (sab ▸ hbc)
  · exact Or.inr ⟨sab.trans sbc, String.lt_trans ab bc⟩

theorem asymm {a b : Feature} (hab : a.Precedes b) : ¬ b.Precedes a := by
  rintro (hba | ⟨sba, ba⟩) <;> rcases hab with hab | ⟨sab, ab⟩
  · omega
  · rw [sab] at hba
    omega
  · rw [sba] at hab
    omega
  · exact String.lt_asymm ab ba

end Precedes

/-- Features of distinct identifiers do not tie. -/
theorem precedes_of_notAfter {a b : Feature} (h : a.notAfter b = true) (ne : a.id ≠ b.id) :
    a.Precedes b := by
  rw [notAfter_iff] at h
  rcases h with h | ⟨same, le⟩
  · exact Or.inl h
  · exact Or.inr ⟨same, Std.lt_of_le_of_ne le ne⟩

/-- Sorting loses and repeats no identifier, so an order in which distinct ones do not tie is
strict in the sorted list. -/
theorem mergeSort_pairwise {notAfter : Feature → Feature → Bool}
    {Before : Feature → Feature → Prop}
    (trans : ∀ a b c, notAfter a b = true → notAfter b c = true → notAfter a c = true)
    (total : ∀ a b, (notAfter a b || notAfter b a) = true)
    (strict : ∀ a b, notAfter a b = true → a.id ≠ b.id → Before a b) {features : List Feature}
    (distinct : (features.map Feature.id).Nodup) :
    (features.mergeSort notAfter).Pairwise Before := by
  have sorted := List.pairwise_mergeSort trans total features
  have apart : (features.mergeSort notAfter).Pairwise fun a b => a.id ≠ b.id :=
    List.pairwise_map.mp
      (((List.mergeSort_perm features notAfter).map Feature.id).nodup_iff.mpr distinct)
  exact (sorted.and apart).imp fun h => strict _ _ h.1 h.2

theorem sort_perm (features : List Feature) : (sort features).Perm features :=
  List.mergeSort_perm features notAfter

theorem sort_pairwise_precedes {features : List Feature}
    (distinct : (features.map Feature.id).Nodup) : (sort features).Pairwise Precedes :=
  mergeSort_pairwise notAfter_trans notAfter_total (fun _ _ => precedes_of_notAfter) distinct

/-- Of two lists with the same features at most one arrangement is strict. -/
theorem eq_of_perm_of_pairwise_precedes {as bs : List Feature} (same : as.Perm bs)
    (ha : as.Pairwise Precedes) (hb : bs.Pairwise Precedes) : as = bs :=
  same.eq_of_pairwise (fun _ _ _ _ hab hba => absurd hba hab.asymm) ha hb

theorem sort_of_pairwise_precedes {features : List Feature}
    (ordered : features.Pairwise Precedes) : sort features = features :=
  List.mergeSort_of_pairwise (ordered.imp Precedes.notAfter)

/-- Sorting forgets how features of distinct identifiers were arranged. -/
theorem sort_eq_of_perm {as bs : List Feature} (same : as.Perm bs)
    (distinct : (as.map Feature.id).Nodup) : sort as = sort bs := by
  have distinct' : (bs.map Feature.id).Nodup := (same.map Feature.id).nodup_iff.mp distinct
  refine eq_of_perm_of_pairwise_precedes ?_ (sort_pairwise_precedes distinct)
    (sort_pairwise_precedes distinct')
  exact (sort_perm as).trans (same.trans (sort_perm bs).symm)

/-- `f` is the first feature of its identifier in the list. -/
def FirstIn (f : Feature) (features : List Feature) : Prop :=
  ∃ before after, features = before ++ f :: after ∧ ∀ g ∈ before, g.id ≠ f.id

theorem firstOfEach_concat (features : List Feature) (f : Feature) :
    firstOfEach (features ++ [f]) =
      if (firstOfEach features).any (·.id == f.id) then firstOfEach features
      else firstOfEach features ++ [f] := by
  rw [firstOfEach, List.foldl_append]
  rfl

theorem any_id_iff {features : List Feature} {id : String} :
    features.any (·.id == id) = true ↔ id ∈ features.map Feature.id := by
  simp only [List.any_eq_true, beq_iff_eq, List.mem_map]

/-- No identifier is lost. -/
theorem mem_map_id_firstOfEach {features : List Feature} {id : String} :
    id ∈ (firstOfEach features).map Feature.id ↔ id ∈ features.map Feature.id := by
  induction features using List.reverseRecOn with
  | nil => rfl
  | append_singleton features f ih =>
      rw [firstOfEach_concat, List.map_append, List.mem_append, List.map_singleton,
        List.mem_singleton]
      split
      next old =>
        rw [ih]
        refine ⟨Or.inl, fun h => h.elim (fun known => known) ?_⟩
        rintro rfl
        exact ih.mp (any_id_iff.mp old)
      next => rw [List.map_append, List.mem_append, List.map_singleton, List.mem_singleton, ih]

theorem firstOfEach_nodup (features : List Feature) :
    ((firstOfEach features).map Feature.id).Nodup := by
  induction features using List.reverseRecOn with
  | nil => exact List.nodup_nil
  | append_singleton features f ih =>
      rw [firstOfEach_concat]
      split
      next => exact ih
      next fresh =>
        rw [List.map_append, List.nodup_append]
        refine ⟨ih, by simp, fun i hi j hj same => fresh (any_id_iff.mpr ?_)⟩
        rw [List.map_singleton, List.mem_singleton] at hj
        exact hj ▸ same ▸ hi

theorem firstOfEach_sublist (features : List Feature) : (firstOfEach features).Sublist features := by
  induction features using List.reverseRecOn with
  | nil => exact List.Sublist.refl []
  | append_singleton features f ih =>
      rw [firstOfEach_concat]
      split
      next => exact ih.trans (List.sublist_append_left features [f])
      next => exact ih.append_right [f]

theorem firstOfEach_of_nodup {features : List Feature}
    (distinct : (features.map Feature.id).Nodup) : firstOfEach features = features := by
  induction features using List.reverseRecOn with
  | nil => rfl
  | append_singleton features f ih =>
      rw [List.map_append, List.nodup_append] at distinct
      obtain ⟨before, _, apart⟩ := distinct
      rw [firstOfEach_concat, ih before, if_neg]
      intro old
      exact apart f.id (any_id_iff.mp old) f.id List.mem_cons_self rfl

theorem firstIn_iff_find? {f : Feature} {features : List Feature} :
    f.FirstIn features ↔ features.find? (·.id == f.id) = some f := by
  rw [List.find?_eq_some_iff_append]
  simp [FirstIn]

/-- A feature at the end is the first of its identifier if the identifier is new. -/
theorem firstIn_concat {f g : Feature} {features : List Feature} :
    f.FirstIn (features ++ [g]) ↔
      f.FirstIn features ∨ f = g ∧ g.id ∉ features.map Feature.id := by
  rw [firstIn_iff_find?, firstIn_iff_find?, List.find?_append]
  cases first : features.find? (·.id == f.id) with
  | some h =>
      have same : h.id = f.id := by simpa using List.find?_some first
      have known : f.id ∈ features.map Feature.id :=
        same ▸ List.mem_map_of_mem (List.mem_of_find?_eq_some first)
      refine ⟨Or.inl, fun h => h.elim (fun earlier => earlier) ?_⟩
      rintro ⟨rfl, fresh⟩
      exact absurd known fresh
  | none =>
      have fresh : f.id ∉ features.map Feature.id := by
        rw [← any_id_iff, List.any_eq_true]
        rintro ⟨h, mem, same⟩
        exact List.find?_eq_none.mp first h mem same
      constructor
      · intro found
        rw [Option.none_or] at found
        cases List.mem_singleton.mp (List.mem_of_find?_eq_some found)
        exact Or.inr ⟨rfl, fresh⟩
      · rintro (earlier | ⟨rfl, _⟩)
        · cases earlier
        · simp

/-- What is kept of an identifier is its first feature, whatever the later ones say. -/
theorem mem_firstOfEach {f : Feature} {features : List Feature} :
    f ∈ firstOfEach features ↔ f.FirstIn features := by
  induction features using List.reverseRecOn with
  | nil => simp [firstOfEach, FirstIn]
  | append_singleton features g ih =>
      have seen : (firstOfEach features).any (·.id == g.id) = true ↔ g.id ∈ features.map Feature.id :=
        any_id_iff.trans mem_map_id_firstOfEach
      rw [firstOfEach_concat, firstIn_concat, ← ih]
      split
      next old => simp [seen.mp old]
      next fresh => simp [mt seen.mpr fresh]

end Feature
end FeatureScan
