import FeatureScan.Detection
import FeatureScan.Proofs.AnalysisCheck
import Mathlib.Data.List.Nodup

/-!
What detection reports: one feature for each signature that the text shows, with the
status that the dataset gives it, in the order of reports. The scan order of the catalog
leaves no trace.
-/

namespace FeatureScan

/-- What is reported of an identifier that was seen. -/
def Dataset.entry (d : Dataset) (id : String) : Feature :=
  ⟨id,
    match d.flag? id with
    | some true => .baseline
    | some false => .needsFallback
    | none => .unknown,
    true⟩

/-- Whether one of the rules of the signature matches the text. -/
def Signature.shownBy (s : Signature) (text : String) : Bool :=
  s.rules.any fun r => r.isMatch (.ofArray text.toList.toArray)

@[simp] theorem Dataset.entry_id (d : Dataset) (id : String) : (d.entry id).id = id := rfl

theorem Dataset.detected_supportOf (d : Dataset) (id : String) :
    Feature.detected id (d.supportOf id) = d.entry id := by
  rw [Feature.detected, Dataset.supportOf, Dataset.entry]
  cases d.flag? id with
  | none => rfl
  | some flag => cases flag <;> rfl

namespace Catalog

def shown (c : Catalog) (text : String) : List Signature := c.signatures.filter (·.shownBy text)

theorem map_id_entry (d : Dataset) (signatures : List Signature) :
    (signatures.map fun s => d.entry s.id).map Feature.id = signatures.map Signature.id := by
  rw [List.map_map]
  rfl

theorem shown_nodup (c : Catalog) (text : String) : ((c.shown text).map Signature.id).Nodup :=
  c.distinct.sublist (List.filter_sublist.map Signature.id)

theorem detect_empty_text (c : Catalog) (d : Dataset) : c.detect "" d = [] := rfl

theorem detect_of_ne {text : String} (c : Catalog) (d : Dataset) (nonempty : text ≠ "") :
    c.detect text d = Feature.sort ((c.shown text).map fun s => d.entry s.id) := by
  simp only [detect, nonempty, if_false, d.detected_supportOf]
  rfl

theorem detect_perm {text : String} (c : Catalog) (d : Dataset) (nonempty : text ≠ "") :
    (c.detect text d).Perm ((c.shown text).map fun s => d.entry s.id) := by
  rw [detect_of_ne c d nonempty]
  exact Feature.sort_perm _

theorem mem_detect {c : Catalog} {d : Dataset} {text : String} {f : Feature} :
    f ∈ c.detect text d ↔
      text ≠ "" ∧ ∃ s ∈ c.signatures, s.shownBy text = true ∧ d.entry s.id = f := by
  by_cases nonempty : text = ""
  · subst nonempty
    exact ⟨nofun, fun h => absurd rfl h.1⟩
  · simp only [(detect_perm c d nonempty).mem_iff, shown, List.mem_map, List.mem_filter, ne_eq,
      nonempty, not_false_eq_true, true_and, and_assoc]

theorem detect_nodup (c : Catalog) (text : String) (d : Dataset) :
    ((c.detect text d).map Feature.id).Nodup := by
  by_cases nonempty : text = ""
  · subst nonempty
    exact List.nodup_nil
  · refine ((detect_perm c d nonempty).map Feature.id).nodup_iff.mpr ?_
    rw [map_id_entry]
    exact c.shown_nodup text

theorem detect_pairwise_precedes (c : Catalog) (text : String) (d : Dataset) :
    (c.detect text d).Pairwise Feature.Precedes := by
  by_cases nonempty : text = ""
  · subst nonempty
    exact List.Pairwise.nil
  · rw [detect_of_ne c d nonempty]
    refine Feature.sort_pairwise_precedes ?_
    rw [map_id_entry]
    exact c.shown_nodup text

theorem detect_found (c : Catalog) (text : String) (d : Dataset) :
    ∀ f ∈ c.detect text d, f.found = true := by
  intro f found
  obtain ⟨_, s, _, _, rfl⟩ := mem_detect.mp found
  rfl

/-- Signatures without repeated identifiers are all that a catalog is, so the same ones in
another order are a permutation. -/
theorem signatures_perm {c c' : Catalog} (same : ∀ s, s ∈ c'.signatures ↔ s ∈ c.signatures) :
    c'.signatures.Perm c.signatures :=
  (List.perm_ext_iff_of_nodup (List.Nodup.of_map Signature.id c'.distinct)
    (List.Nodup.of_map Signature.id c.distinct)).mpr same

theorem detect_eq_of_same {c c' : Catalog} (same : ∀ s, s ∈ c'.signatures ↔ s ∈ c.signatures)
    (text : String) (d : Dataset) : c'.detect text d = c.detect text d := by
  by_cases nonempty : text = ""
  · subst nonempty
    rfl
  · rw [detect_of_ne c' d nonempty, detect_of_ne c d nonempty]
    apply Feature.sort_eq_of_perm
    · exact ((signatures_perm same).filter _).map _
    · rw [map_id_entry]
      exact c'.shown_nodup text

theorem sound_analyze (c : Catalog) (text : String) (d : Dataset) : (c.analyze text d).Sound :=
  Analysis.sound_ofSorted (c.detect_pairwise_precedes text d) (c.detect_nodup text d)

/-- Detection reports exactly the signatures with a matching rule, once each and in strict
order, whatever the scan order; of the empty text it reports nothing. -/
theorem detect_exact (c : Catalog) (d : Dataset) :
    (∀ text : String, text ≠ "" →
      (c.detect text d).Perm
          ((c.signatures.filter (·.shownBy text)).map fun s => d.entry s.id) ∧
        ((c.detect text d).map Feature.id).Nodup ∧
        (c.detect text d).Pairwise Feature.Precedes ∧
        ∀ c' : Catalog, (∀ s, s ∈ c'.signatures ↔ s ∈ c.signatures) →
          c'.detect text d = c.detect text d) ∧
      c.detect "" d = [] := by
  refine ⟨fun text nonempty => ⟨detect_perm c d nonempty, c.detect_nodup text d,
    c.detect_pairwise_precedes text d, ?_⟩, detect_empty_text c d⟩
  intro c' same
  exact detect_eq_of_same same text d

/-- Two signatures in either scan order, of which the text shows both, and a dataset that
puts the later identifier first. -/
theorem detect_exact_swapped :
    let grid : Signature := ⟨"grid", .css, [.anywhere (.word ['g', 'r'])]⟩
    let fetch : Signature := ⟨"fetch", .js, [.anywhere (.word ['x']), .anywhere (.word ['f'])]⟩
    let c := (empty.register grid).register fetch
    let c' := (empty.register fetch).register grid
    let d : Dataset := .ofFlags [("grid", some true)]
    "GR f" ≠ "" ∧ (∀ s, s ∈ c'.signatures ↔ s ∈ c.signatures) ∧
      (c.detect "GR f" d).Perm [⟨"grid", .baseline, true⟩, ⟨"fetch", .unknown, true⟩] ∧
      c'.detect "GR f" d = c.detect "GR f" d := by
  intro grid fetch c c' d
  have nonempty : "GR f" ≠ "" := by decide
  have same : ∀ s, s ∈ c'.signatures ↔ s ∈ c.signatures := by
    intro s
    have hc : c.signatures = [grid, fetch] := by decide
    have hc' : c'.signatures = [fetch, grid] := by decide
    rw [hc, hc']
    simp [or_comm]
  obtain ⟨perm, _, _, order⟩ := (detect_exact c d).1 "GR f" nonempty
  refine ⟨nonempty, same, ?_, order c' same⟩
  have shown : ((c.signatures.filter (·.shownBy "GR f")).map fun s => d.entry s.id) =
      [⟨"grid", .baseline, true⟩, ⟨"fetch", .unknown, true⟩] := by decide
  exact shown ▸ perm

end Catalog
end FeatureScan
