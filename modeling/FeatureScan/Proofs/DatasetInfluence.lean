import FeatureScan.Proofs.DetectedFeatures

/-!
What a dataset has a say in. The identifiers that are detected are a matter of the catalog and the
text; a dataset gives each its status and so its place in the report. The language and the number
of features do not depend on places.
-/

namespace FeatureScan

namespace Dataset

/-- The dataset with another flag for an identifier, or with none. -/
def setFlag (d : Dataset) (id : String) : Option Bool → Dataset
  | some flag => ⟨d.flags.insert id flag⟩
  | none => ⟨d.flags.erase id⟩

theorem flag?_setFlag_of_ne {id other : String} (d : Dataset) (flag : Option Bool)
    (apart : id ≠ other) : (d.setFlag id flag).flag? other = d.flag? other := by
  cases flag with
  | none => exact Dictionary.get?_erase_of_ne d.flags apart
  | some flag => exact Dictionary.get?_insert_of_ne d.flags flag apart

theorem entry_congr {d d' : Dataset} {id : String} (same : d.flag? id = d'.flag? id) :
    d.entry id = d'.entry id := by
  rw [entry, entry, same]

end Dataset

/-- The language is inferred from the identifiers alone, in any order. -/
theorem Language.infer_eq_of_perm {features features' : List Feature}
    (same : (features.map Feature.id).Perm (features'.map Feature.id)) :
    infer features = infer features' := by
  have speaks (speaks : String → Bool) :
      (features.any fun f => speaks f.id) = features'.any fun f => speaks f.id := by
    have ids (fs : List Feature) : (fs.any fun f => speaks f.id) = (fs.map Feature.id).any speaks := by
      rw [List.any_map]
      rfl
    rw [ids, ids]
    exact same.any_eq
  simp only [infer, speaks speaksCss, speaks speaksJavaScript, speaks speaksHtml]

theorem Summary.total_eq_of_perm {features features' : List Feature}
    (same : (features.map Feature.id).Perm (features'.map Feature.id)) :
    (ofFeatures features).total = (ofFeatures features').total := by
  have length := same.length_eq
  rw [List.length_map, List.length_map] at length
  rw [(ofFeatures_total features).1, (ofFeatures_total features').1, length]

namespace Catalog

/-- The identifiers that an analysis of the text reports. -/
def detectedIds (c : Catalog) (text : String) (d : Dataset) : List String :=
  (c.analyze text d).features.map Feature.id

theorem detectedIds_perm_shown {text : String} (c : Catalog) (d : Dataset) (nonempty : text ≠ "") :
    (c.detectedIds text d).Perm ((c.shown text).map Signature.id) :=
  map_id_entry d (c.shown text) ▸ (detect_perm c d nonempty).map Feature.id

theorem detectedIds_perm (c : Catalog) (text : String) (d d' : Dataset) :
    (c.detectedIds text d).Perm (c.detectedIds text d') := by
  by_cases nonempty : text = ""
  · subst nonempty
    exact List.Perm.refl _
  · exact (detectedIds_perm_shown c d nonempty).trans (detectedIds_perm_shown c d' nonempty).symm

theorem mem_ids_of_detected {c : Catalog} {text : String} {d : Dataset} {id : String}
    (detected : id ∈ c.detectedIds text d) : id ∈ c.ids := by
  by_cases nonempty : text = ""
  · subst nonempty
    cases detected
  · have shown := (detectedIds_perm_shown c d nonempty).mem_iff.mp detected
    exact (List.filter_sublist.map Signature.id).mem shown

/-- What is shown and arranged in strict order is what is detected. -/
theorem detect_eq_of_arranged {c : Catalog} {text : String} {d : Dataset} {l : List Feature}
    (nonempty : text ≠ "") (same : l.Perm ((c.shown text).map fun s => d.entry s.id))
    (arranged : l.Pairwise Feature.Precedes) : c.detect text d = l :=
  Feature.eq_of_perm_of_pairwise_precedes ((detect_perm c d nonempty).trans same.symm)
    (c.detect_pairwise_precedes text d) arranged

/-- Datasets that agree on what is detected order it alike. -/
theorem detect_eq_of_flags {c : Catalog} {text : String} {d d' : Dataset}
    (agree : ∀ id ∈ c.detectedIds text d, d.flag? id = d'.flag? id) :
    c.detect text d = c.detect text d' := by
  by_cases nonempty : text = ""
  · subst nonempty
    rfl
  · have entries : (c.shown text).map (fun s => d.entry s.id) =
        (c.shown text).map fun s => d'.entry s.id := by
      apply List.map_congr_left
      intro s hs
      apply Dataset.entry_congr
      apply agree
      exact (detectedIds_perm_shown c d nonempty).mem_iff.mpr (List.mem_map_of_mem hs)
    rw [detect_of_ne c d nonempty, detect_of_ne c d' nonempty, entries]

/-- Two datasets never differ in what is detected, in the language or in the number of features;
an analysis differs only if they differ in the flag of something that is detected. A flag of
anything else, or of what the catalog does not know, makes no difference. -/
theorem analyze_depends_on_detected_flags (c : Catalog) (text : String) (d d' : Dataset) :
    (∀ id, id ∈ c.detectedIds text d ↔ id ∈ c.detectedIds text d') ∧
      (c.analyze text d).language = (c.analyze text d').language ∧
      (c.analyze text d).summary.total = (c.analyze text d').summary.total ∧
      ((∀ id ∈ c.detectedIds text d, d.flag? id = d'.flag? id) →
        c.analyze text d = c.analyze text d') ∧
      ∀ id flag, id ∉ c.detectedIds text d ∨ c.contains id = false →
        c.analyze text (d.setFlag id flag) = c.analyze text d := by
  have same := c.detectedIds_perm text d d'
  refine ⟨fun id => same.mem_iff, Language.infer_eq_of_perm same, Summary.total_eq_of_perm same,
    fun agree => congrArg Analysis.ofSorted (detect_eq_of_flags agree), ?_⟩
  intro id flag foreign
  have undetected : id ∉ c.detectedIds text d := by
    intro detected
    have known := contains_iff.mpr (mem_ids_of_detected detected)
    obtain absent | unknown := foreign
    · exact absent detected
    · exact nomatch known.symm.trans unknown
  refine (congrArg Analysis.ofSorted (detect_eq_of_flags fun other detected => ?_)).symm
  have apart : id ≠ other := fun same => undetected (same ▸ detected)
  exact (d.flag?_setFlag_of_ne flag apart).symm

/-- Of two features one stands first with one dataset and the other one with another; a third one
is not shown. -/
theorem analyze_of_contrary_datasets :
    let grid : Signature := ⟨"grid", .css, [.anywhere (.word ['g', 'r'])]⟩
    let fetch : Signature := ⟨"fetch", .js, [.anywhere (.word ['f'])]⟩
    let dialog : Signature := ⟨"dialog", .html, [.anywhere (.word ['d'])]⟩
    let c := ((empty.register grid).register fetch).register dialog
    let d : Dataset := .ofFlags [("grid", some true), ("fetch", some false)]
    let d' : Dataset := .ofFlags [("grid", some false), ("fetch", some true)]
    c.detectedIds "f gr" d = ["grid", "fetch"] ∧ c.detectedIds "f gr" d' = ["fetch", "grid"] ∧
      (c.analyze "f gr" d).language = (c.analyze "f gr" d').language ∧
      c.analyze "f gr" (d.setFlag "dialog" (some true)) = c.analyze "f gr" d ∧
      c.analyze "f gr" (d.setFlag "svg" none) = c.analyze "f gr" d ∧
      c.analyze "f gr" (d.setFlag "dialog" (some true)) =
        c.analyze "f gr" (d.setFlag "svg" (some false)) := by
  intro grid fetch dialog c d d'
  have nonempty : "f gr" ≠ "" := by decide
  have shown : c.shown "f gr" = [grid, fetch] := by decide
  have first : c.detectedIds "f gr" d = ["grid", "fetch"] := by
    refine congrArg (List.map Feature.id) (detect_eq_of_arranged (l := [⟨"grid", .baseline, true⟩,
      ⟨"fetch", .needsFallback, true⟩]) nonempty ?_ ?_)
    · rw [shown]
      exact .refl _
    · simp [Feature.Precedes, Support.priority]
  have second : c.detectedIds "f gr" d' = ["fetch", "grid"] := by
    refine congrArg (List.map Feature.id) (detect_eq_of_arranged (l := [⟨"fetch", .baseline, true⟩,
      ⟨"grid", .needsFallback, true⟩]) nonempty ?_ ?_)
    · rw [shown]
      exact .swap _ _ _
    · simp [Feature.Precedes, Support.priority]
  obtain ⟨_, language, _, _, others⟩ := analyze_depends_on_detected_flags c "f gr" d d'
  obtain ⟨_, _, _, agree, _⟩ := analyze_depends_on_detected_flags c "f gr"
    (d.setFlag "dialog" (some true)) (d.setFlag "svg" (some false))
  refine ⟨first, second, language, others "dialog" (some true) (.inl ?_),
    others "svg" none (.inr (by decide)), agree fun id detected => ?_⟩
  · rw [first]
    decide
  · have reported := (detectedIds_perm_shown c _ nonempty).mem_iff.mp detected
    rw [shown, List.map_cons, List.map_singleton, List.mem_pair] at reported
    obtain rfl | rfl := reported
    · decide
    · decide

end Catalog
end FeatureScan
