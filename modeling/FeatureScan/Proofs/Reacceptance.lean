import FeatureScan.Proofs.ReportRoundTrip
import FeatureScan.Proofs.StoredLists

/-!
Whether the check of outcomes from outside takes what was put together here. An outcome is put
together from features marked either way, but a feature that was not seen is none that the
detector could have reported, so the check refuses it, and what was stored with it is lost.
-/

namespace FeatureScan

/-- All features that an outcome keeps are marked as found. -/
def Feature.AllFound (features : List Feature) : Prop :=
  ∀ f ∈ firstOfEach features, f.found = true

instance (features : List Feature) : Decidable (Feature.AllFound features) :=
  inferInstanceAs (Decidable (∀ f ∈ Feature.firstOfEach features, f.found = true))

namespace Analysis

/-- Without repeated identifiers the mark is all that the check of each feature looks at. -/
theorem checkEach_of_distinct {seen : List String} {features : List Feature}
    (distinct : (features.map Feature.id).Nodup) (fresh : ∀ f ∈ features, f.id ∉ seen) :
    checkEach seen features =
      match features.find? (!·.found) with
      | none => .ok ()
      | some f => .error (.notFound f.id) := by
  induction features generalizing seen with
  | nil => rfl
  | cons f rest ih =>
      rw [List.map_cons, List.nodup_cons] at distinct
      cases found : f.found with
      | false => simp [checkEach, found]
      | true =>
          have old : f.id ∉ seen := fresh f List.mem_cons_self
          have later : ∀ g ∈ rest, g.id ∉ f.id :: seen := by
            intro g hg
            rw [List.mem_cons, not_or]
            exact ⟨fun same => distinct.1 (same ▸ List.mem_map_of_mem hg),
              fresh g (List.mem_cons_of_mem f hg)⟩
          simp [checkEach, found, old, ih distinct.2 later]

theorem Sound.check_eq {a : Analysis} (sound : a.Sound) :
    a.check =
      match a.features.find? (!·.found) with
      | none => .ok a
      | some f => .error (.notFound f.id) := by
  have each : checkEach [] a.features = _ := checkEach_of_distinct sound.distinct (by simp)
  cases unmarked : a.features.find? (!·.found) with
  | none =>
      refine check_eq_ok.mpr ⟨rfl, sound, fun f hf => ?_⟩
      have marked := List.find?_eq_none.mp unmarked f hf
      simpa using marked
  | some f =>
      rw [unmarked] at each
      simp only [check, each, error_bind]

theorem check_ofFeatures_iff (features : List Feature) :
    (ofFeatures features).check = .ok (ofFeatures features) ↔ Feature.AllFound features := by
  rw [check_eq_ok]
  constructor
  · intro accepted f hf
    obtain ⟨_, _, found⟩ := accepted
    exact found f ((Feature.sort_perm _).mem_iff.mpr hf)
  · intro found
    exact ⟨rfl, sound_ofFeatures features, fun f hf => found f ((Feature.sort_perm _).mem_iff.mp hf)⟩

/-- Put together from features that are marked as found. What is counted is a list of the
program, whose length has 64 bits. -/
structure FromFound (a : Analysis) (features : List Feature) : Prop where
  eq : a = ofFeatures features
  found : Feature.AllFound features
  countable : features.length ≤ Json.greatestWhole

theorem FromFound.storable {a : Analysis} {features : List Feature} (h : a.FromFound features) :
    a.Storable :=
  h.eq ▸ storable_ofFeatures h.found h.countable

section

variable {σ : Type} {s : Store (StateM σ)} {Holds : σ → Dictionary String → Prop}

/-- The check takes an outcome back as it was if all features that it keeps are marked as found,
and otherwise names the first one that is not. So what is put together from features marked as
found is read back from the history, from the bookmarks and from a report. -/
theorem reaccepted_iff_found (map : s.Implements Holds) :
    (∀ features,
      ((ofFeatures features).check = .ok (ofFeatures features) ↔ Feature.AllFound features) ∧
      (ofFeatures features).check =
        match (ofFeatures features).features.find? (!·.found) with
        | none => .ok (ofFeatures features)
        | some f => .error (.notFound f.id)) ∧
    (∀ st d, Holds st d →
      (∀ items : List HistoryItem,
        (∀ item ∈ items, item.time.Regular ∧ ∃ features, item.results.FromFound features) →
        (Store.run (Kept.load s) (Store.run (Kept.save s items) st).2).1 = .ok items) ∧
      ∀ bookmarks : List Bookmark,
        (∀ b ∈ bookmarks, b.time.Regular ∧
          ∀ a, b.results = some a → ∃ features, a.FromFound features) →
        (Store.run (Kept.load s) (Store.run (Kept.save s bookmarks) st).2).1 = .ok bookmarks) ∧
    ∀ features, Feature.AllFound features → features.length ≤ Json.greatestWhole →
      ∀ t : Instant, t.Regular →
        ∃ e, Export.read ((ofFeatures features).toReport t) = .ok e ∧
          e.time = ⟨t.seconds, t.nanos / 1000000 * 1000000⟩ ∧
          e.outcome = .ok (ofFeatures features) := by
  refine ⟨fun features => ⟨check_ofFeatures_iff features, (sound_ofFeatures features).check_eq⟩,
    fun st d h => ⟨fun items built => ?_, fun bookmarks built => ?_⟩, ?_⟩
  · refine Kept.load_save map h fun item mem => ?_
    obtain ⟨regular, features, results⟩ := built item mem
    exact HistoryItem.Storable.mk results.storable regular
  · refine Kept.load_save map h fun b mem => ?_
    obtain ⟨regular, results⟩ := built b mem
    refine Bookmark.Storable.mk (fun a present => ?_) regular
    obtain ⟨features, origin⟩ := results a present
    exact origin.storable
  · intro features found countable t regular
    have storable : (ofFeatures features).Storable := storable_ofFeatures found countable
    exact ⟨⟨t.toMillis, ofFeatures features⟩, Export.read_toReport storable.fits regular, rfl,
      Export.outcome_of_storable storable t.toMillis⟩

end

/-- The mark of a repeated identifier does not matter, as the feature is dropped. -/
theorem reaccepted_of_unmarked_repetition :
    let features : List Feature :=
      [⟨"grid", .unknown, true⟩, ⟨"fetch", .baseline, true⟩, ⟨"grid", .baseline, false⟩]
    let a := ofFeatures features
    let item : HistoryItem := .new "1" ⟨0, 0⟩ "g" a
    let bookmark : Bookmark := .new "2" ⟨0, 0⟩ "n" "g" (some a)
    a.check = .ok a ∧
      (Store.run (Kept.load .memory) (Store.run (Kept.save .memory [item]) .empty).2).1 =
        .ok [item] ∧
      (Store.run (Kept.load .memory) (Store.run (Kept.save .memory [bookmark]) .empty).2).1 =
        .ok [bookmark] ∧
      ∃ e, Export.read (a.toReport ⟨0, 0⟩) = .ok e ∧ e.outcome = .ok a := by
  intro features a item bookmark
  have found : Feature.AllFound features := by decide
  have origin : a.FromFound features := ⟨rfl, found, by decide⟩
  obtain ⟨accepted, stored, exported⟩ := reaccepted_iff_found Store.memory_implements
  obtain ⟨history, shelf⟩ := stored .empty .empty rfl
  obtain ⟨e, read, _, outcome⟩ := exported features found origin.countable ⟨0, 0⟩ (by decide)
  refine ⟨(accepted features).1.mpr found, history [item] ?_, shelf [bookmark] ?_, e, read, outcome⟩
  · intro _ mem
    cases List.mem_singleton.mp mem
    exact ⟨by decide, features, origin⟩
  · intro _ mem
    cases List.mem_singleton.mp mem
    exact ⟨by decide, fun _ present => ⟨features, Option.some.inj present ▸ origin⟩⟩

/-- A feature that is not marked as found is counted all the same. The check refuses it, and a
report with it can be written and read but has no outcome. -/
theorem ofFeatures_unmarked_refused :
    let a := ofFeatures [⟨"grid", .baseline, false⟩]
    a.summary = ⟨1, 1, 0, 0⟩ ∧ a.check = .error (.notFound "grid") ∧
      ∃ e, Export.read (a.toReport ⟨0, 0⟩) = .ok e ∧
        e.outcome = .error (.report (.notFound "grid")) := by
  intro a
  have computed : a = ⟨.css, [⟨"grid", .baseline, false⟩], ⟨1, 1, 0, 0⟩⟩ :=
    congrArg ofSorted (Feature.sort_of_pairwise_precedes (List.pairwise_singleton _ _))
  have fits : a.summary.Fits := by
    rw [computed]
    constructor <;> decide
  have refused : a.check = .error (.notFound "grid") := by
    rw [computed]
    decide
  refine ⟨congrArg Analysis.summary computed, refused, ⟨(⟨0, 0⟩ : Instant).toMillis, a⟩,
    Export.read_toReport fits (by decide), ?_⟩
  simp only [Export.outcome, refused]

end Analysis
end FeatureScan
