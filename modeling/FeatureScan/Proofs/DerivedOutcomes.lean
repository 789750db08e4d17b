import FeatureScan.Proofs.AnalysisCheck

/-!
Outcomes as they are derived from features. What is derived keeps the first feature of each
identifier and forgets how the others were arranged, and deriving it again from its own
features gives it back. So the check of parts from outside, which looks at neighbours and
counts, accepts exactly what is derived from features that are all marked as found.
-/

namespace FeatureScan
namespace Analysis

theorem mem_features_ofFeatures {f : Feature} {features : List Feature} :
    f ∈ (ofFeatures features).features ↔ f.FirstIn features :=
  (Feature.sort_perm _).mem_iff.trans Feature.mem_firstOfEach

theorem mem_ids_ofFeatures {id : String} {features : List Feature} :
    id ∈ (ofFeatures features).features.map Feature.id ↔ id ∈ features.map Feature.id :=
  ((Feature.sort_perm _).map Feature.id).mem_iff.trans Feature.mem_map_id_firstOfEach

/-- A sound outcome is derived from its own features. -/
theorem Sound.ofFeatures_features {a : Analysis} (sound : a.Sound) :
    ofFeatures a.features = a := by
  rw [ofFeatures, Feature.firstOfEach_of_nodup sound.distinct,
    Feature.sort_of_pairwise_precedes sound.ordered]
  exact sound.eq_ofSorted.symm

theorem sound_iff_derived {a : Analysis} : a.Sound ↔ ofFeatures a.features = a :=
  ⟨Sound.ofFeatures_features, fun derived => derived ▸ sound_ofFeatures a.features⟩

/-- Without repeated identifiers the arrangement of the features does not matter. -/
theorem ofFeatures_eq_of_perm {as bs : List Feature} (same : as.Perm bs)
    (distinct : (as.map Feature.id).Nodup) : ofFeatures as = ofFeatures bs := by
  have distinct' : (bs.map Feature.id).Nodup := (same.map Feature.id).nodup_iff.mp distinct
  rw [ofFeatures, ofFeatures, Feature.firstOfEach_of_nodup distinct,
    Feature.firstOfEach_of_nodup distinct', Feature.sort_eq_of_perm same distinct]

/-- Marks are kept, so what is derived from found features has no others. -/
theorem found_of_derived {features : List Feature} (found : ∀ f ∈ features, f.found = true) :
    ∀ f ∈ (ofFeatures features).features, f.found = true := by
  intro f hf
  obtain ⟨before, after, rfl, _⟩ := mem_features_ofFeatures.mp hf
  exact found f (List.mem_append_right before List.mem_cons_self)

/-- An outcome has of each identifier the first feature, with its status and its mark, in the
strict order of reports. It is derived from its own features again, and from all arrangements
of features without repeated identifiers the same outcome is derived. -/
theorem derived_from_first_occurrences :
    (∀ features : List Feature,
      (∀ f, f ∈ (ofFeatures features).features ↔ f.FirstIn features) ∧
        (∀ id, id ∈ (ofFeatures features).features.map Feature.id ↔
          id ∈ features.map Feature.id) ∧
        ((ofFeatures features).features.map Feature.id).Nodup ∧
        (ofFeatures features).features.Pairwise Feature.Precedes) ∧
      (∀ a : Analysis, a.Sound → ofFeatures a.features = a) ∧
      ∀ as bs : List Feature, as.Perm bs → (as.map Feature.id).Nodup →
        ofFeatures as = ofFeatures bs := by
  refine ⟨fun features => ?_, fun a sound => sound.ofFeatures_features,
    fun as bs same distinct => ofFeatures_eq_of_perm same distinct⟩
  have sound := sound_ofFeatures features
  exact ⟨fun f => mem_features_ofFeatures, fun id => mem_ids_ofFeatures, sound.distinct,
    sound.ordered⟩

/-- The later feature would stand first in a report and is marked as found, the earlier one is
kept all the same. -/
theorem derived_from_contrary_occurrences :
    let grid : Feature := ⟨"grid", .unknown, false⟩
    let fetch : Feature := ⟨"fetch", .needsFallback, true⟩
    let again : Feature := ⟨"grid", .baseline, true⟩
    let a := ofFeatures [grid, fetch, again]
    (grid ∈ a.features ∧ again ∉ a.features) ∧ ofFeatures a.features = a ∧
      ofFeatures [grid, fetch] = ofFeatures [fetch, grid] := by
  intro grid fetch again a
  obtain ⟨kept, again_derived, arranged⟩ := derived_from_first_occurrences
  obtain ⟨members, _⟩ := kept [grid, fetch, again]
  refine ⟨⟨(members grid).mpr ⟨[], [fetch, again], rfl, nofun⟩, fun late => ?_⟩,
    again_derived a (sound_ofFeatures _),
    arranged [grid, fetch] [fetch, grid] (List.Perm.swap fetch grid []) (by decide)⟩
  have first := Feature.firstIn_iff_find?.mp ((members again).mp late)
  exact absurd first (by decide)

/-- The check accepts parts exactly if all their features are marked as found and deriving an
outcome from the features gives the parts back, and it answers with that outcome. These are the
parts that can be derived from found features at all. -/
theorem check_accepts_derived (parts : Analysis) :
    (∀ a, parts.check = .ok a ↔
      ((∀ f ∈ parts.features, f.found = true) ∧ ofFeatures parts.features = parts) ∧
        a = ofFeatures parts.features) ∧
      ((∃ a, parts.check = .ok a) ↔
        ∃ features, (∀ f ∈ features, f.found = true) ∧ ofFeatures features = parts) := by
  have accepted (a : Analysis) : parts.check = .ok a ↔
      ((∀ f ∈ parts.features, f.found = true) ∧ ofFeatures parts.features = parts) ∧
        a = ofFeatures parts.features := by
    rw [check_eq_ok, sound_iff_derived]
    constructor
    · rintro ⟨rfl, derived, found⟩
      exact ⟨⟨found, derived⟩, derived.symm⟩
    · rintro ⟨⟨found, derived⟩, same⟩
      exact ⟨same.trans derived, derived, found⟩
  refine ⟨accepted, ?_, ?_⟩
  · rintro ⟨a, ok⟩
    exact ⟨parts.features, ((accepted a).mp ok).1⟩
  · rintro ⟨features, found, rfl⟩
    have sound := sound_ofFeatures features
    exact ⟨_, (accepted _).mpr ⟨⟨found_of_derived found, sound.ofFeatures_features⟩, rfl⟩⟩

end Analysis
end FeatureScan
