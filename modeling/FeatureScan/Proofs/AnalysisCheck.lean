import FeatureScan.Analysis
import FeatureScan.Proofs.FeatureOrder
import FeatureScan.Proofs.Outcome

/-!
Computed outcomes are sound, and the check of an outcome from outside accepts exactly the
sound ones whose features are all marked as found.
-/

namespace FeatureScan
namespace Summary

theorem foldl_add (features : List Feature) (s : Summary) :
    features.foldl (fun s f => s.add f.support) s =
      ⟨s.total + features.length,
        s.baseline + features.countP (·.support == .baseline),
        s.needsFallback + features.countP (·.support == .needsFallback),
        s.unknown + features.countP (·.support == .unknown)⟩ := by
  induction features generalizing s with
  | nil => rfl
  | cons f rest ih =>
      rw [List.foldl_cons, ih]
      cases h : f.support <;> simp [add, h] <;> omega

theorem ofFeatures_eq (features : List Feature) :
    ofFeatures features =
      ⟨features.length, features.countP (·.support == .baseline),
        features.countP (·.support == .needsFallback),
        features.countP (·.support == .unknown)⟩ := by
  rw [ofFeatures, foldl_add]
  simp [empty]

theorem ofFeatures_total (features : List Feature) :
    (ofFeatures features).total = features.length ∧
      (ofFeatures features).baseline + (ofFeatures features).needsFallback +
        (ofFeatures features).unknown = (ofFeatures features).total := by
  rw [ofFeatures_eq]
  refine ⟨rfl, ?_⟩
  dsimp only
  induction features with
  | nil => rfl
  | cons f rest ih =>
      cases h : f.support <;> simp [h] <;> omega

end Summary

namespace Analysis

theorem sound_ofSorted {features : List Feature} (ordered : features.Pairwise Feature.Precedes)
    (distinct : (features.map Feature.id).Nodup) : (ofSorted features).Sound :=
  ⟨ordered, distinct, rfl, rfl⟩

theorem sound_ofSorted_sort {features : List Feature}
    (distinct : (features.map Feature.id).Nodup) : (ofSorted (Feature.sort features)).Sound :=
  sound_ofSorted (Feature.sort_pairwise_precedes distinct)
    (((Feature.sort_perm features).map Feature.id).nodup_iff.mpr distinct)

theorem sound_ofFeatures (features : List Feature) : (ofFeatures features).Sound :=
  sound_ofSorted_sort (Feature.firstOfEach_nodup features)

theorem sound_empty : empty.Sound := sound_ofSorted List.Pairwise.nil List.nodup_nil

theorem sound_single (f : Feature) : (ofSorted [f]).Sound :=
  sound_ofSorted (List.pairwise_singleton _ f) (List.pairwise_singleton _ f.id)

theorem Sound.eq_ofSorted {a : Analysis} (h : a.Sound) : a = ofSorted a.features := by
  cases a
  simp only [ofSorted, mk.injEq, true_and]
  exact ⟨h.language_eq, h.summary_eq⟩

theorem checkEach_eq_ok {seen : List String} {features : List Feature} :
    checkEach seen features = .ok () ↔
      (∀ f ∈ features, f.found = true) ∧ (features.map Feature.id).Nodup ∧
        ∀ f ∈ features, f.id ∉ seen := by
  induction features generalizing seen with
  | nil => simp [checkEach]
  | cons f rest ih =>
      simp only [checkEach, List.map_cons, List.nodup_cons, List.forall_mem_cons]
      cases found : f.found with
      | false => simp
      | true =>
          by_cases old : f.id ∈ seen
          · simp [old]
          · simp only [Bool.not_true, Bool.false_eq_true, if_false, List.contains_iff_mem, old,
              ih, List.mem_cons, not_or, List.mem_map, not_exists, not_and]
            constructor
            · rintro ⟨all, nodup, apart⟩
              exact ⟨⟨trivial, all⟩, ⟨fun g hg => (apart g hg).1, nodup⟩, not_false,
                fun g hg => (apart g hg).2⟩
            · rintro ⟨⟨_, all⟩, ⟨apart, nodup⟩, _, new⟩
              exact ⟨all, nodup, fun g hg => ⟨apart g hg, new g hg⟩⟩

theorem checkOrder_eq_ok {features : List Feature} :
    checkOrder features = .ok () ↔ features.Pairwise fun a b => a.notAfter b = true := by
  induction features with
  | nil => simp [checkOrder]
  | cons a rest ih =>
      cases rest with
      | nil => simp [checkOrder]
      | cons b rest =>
          rw [checkOrder]
          split
          next le =>
            rw [ih, List.pairwise_cons (a := a)]
            refine ⟨fun h => ⟨fun c hc => ?_, h⟩, And.right⟩
            rcases List.mem_cons.mp hc with rfl | hc
            · exact le
            · exact Feature.notAfter_trans a b c le ((List.pairwise_cons.mp h).1 c hc)
          next gt =>
            refine ⟨fun h => (nomatch h), fun h => absurd ?_ gt⟩
            exact (List.pairwise_cons.mp h).1 b List.mem_cons_self

/-- Neighbours in order, no identifier twice and every feature found: together this is the
strict order of the whole list. -/
theorem check_eq_ok {a b : Analysis} :
    a.check = .ok b ↔ b = a ∧ a.Sound ∧ ∀ f ∈ a.features, f.found = true := by
  simp only [check, bind_eq_ok]
  constructor
  · rintro ⟨⟨⟩, each, ⟨⟩, order, h⟩
    obtain ⟨found, distinct, _⟩ := checkEach_eq_ok.mp each
    have sorted := checkOrder_eq_ok.mp order
    split at h
    · cases h
    next summary =>
      split at h
      · cases h
      next language =>
        have ordered : a.features.Pairwise Feature.Precedes :=
          (sorted.and (List.pairwise_map.mp distinct)).imp fun p =>
            Feature.precedes_of_notAfter p.1 p.2
        have sound : a.Sound :=
          ⟨ordered, distinct, (Decidable.not_not.mp language).symm, (Decidable.not_not.mp summary).symm⟩
        exact ⟨(Except.ok.inj h).symm.trans sound.eq_ofSorted.symm, sound, found⟩
  · rintro ⟨rfl, sound, found⟩
    refine ⟨(), checkEach_eq_ok.mpr ⟨found, sound.distinct, by simp⟩, (),
      checkOrder_eq_ok.mpr (sound.ordered.imp Feature.Precedes.notAfter), ?_⟩
    simp [← sound.eq_ofSorted, pure, Except.pure]

end Analysis
end FeatureScan
