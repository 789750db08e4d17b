import FeatureScan.Proofs.ReportLines

/-!
A Markdown report determines its outcome. The counts of the summary tell how many lines each
group has, so the groups are told apart without looking at the identifiers, whatever these look
like; and the heading that a feature stands under is its status.
-/

namespace FeatureScan

open Text (OneLine lines)

namespace Report

theorem eq_of_toString_eq {m n : Nat} (same : toString m = toString n) : m = n := by
  rw [Nat.toString_eq_ofList_toDigits, Nat.toString_eq_ofList_toDigits, String.ofList_inj] at same
  simpa using congrArg Text.decimalValue same

theorem summary_of_markdown_eq {s s' : Summary} (same : markdownSummary s = markdownSummary s') :
    s = s' := by
  simp only [markdownSummary, Support.all, List.map_cons, List.map_nil, List.cons_append,
    List.nil_append, List.cons.injEq, String.append_right_inj, and_true, true_and] at same
  obtain ⟨total, baseline, needsFallback, unknown⟩ := same
  have total : s.total = s'.total := eq_of_toString_eq total
  have baseline : s.baseline = s'.baseline := eq_of_toString_eq baseline
  have needsFallback : s.needsFallback = s'.needsFallback := eq_of_toString_eq needsFallback
  have unknown : s.unknown = s'.unknown := eq_of_toString_eq unknown
  cases s
  exact (Summary.mk.injEq ..).mpr ⟨total, baseline, needsFallback, unknown⟩

/-- The lines of a block, of which the number is known, end where the next one starts. -/
theorem Block.ids_of_append_eq {b b' : Block} (size : b.ids.length = b'.ids.length)
    {rest rest' : List String} (same : b.markdown ++ rest = b'.markdown ++ rest') :
    b.ids = b'.ids ∧ rest = rest' := by
  have lengths : b.markdown.length = b'.markdown.length := by simp [markdown, size]
  obtain ⟨here, later⟩ := List.append_inj same lengths
  refine ⟨?_, later⟩
  obtain ⟨_, items⟩ := List.append_inj (List.append_cancel_right here) rfl
  refine List.map_injective_iff.mpr (fun id id' same => ?_) items
  exact (String.append_right_inj _).mp ((String.append_left_inj _).mp same)

variable {groups groups' : List (Support × List Feature)}

/-- Of groups with known sizes the lines tell the identifiers. -/
theorem ids_of_markdown_eq
    (sizes : groups.map (fun g => (g.1, g.2.length)) = groups'.map fun g => (g.1, g.2.length))
    (same : (blocksOf groups).flatMap Block.markdown = (blocksOf groups').flatMap Block.markdown) :
    groups.map (fun g => (g.1, g.2.map Feature.id)) =
      groups'.map fun g => (g.1, g.2.map Feature.id) := by
  induction groups generalizing groups' with
  | nil =>
      rw [List.map_nil, eq_comm, List.map_eq_nil_iff] at sizes
      rw [sizes]
  | cons g rest ih =>
      cases groups' with
      | nil => cases sizes
      | cons g' rest' =>
          obtain ⟨s, features⟩ := g
          obtain ⟨s', features'⟩ := g'
          simp only [List.map_cons, List.cons.injEq, Prod.mk.injEq] at sizes ⊢
          obtain ⟨⟨status, size⟩, sizes⟩ := sizes
          cases features with
          | nil =>
              cases List.length_eq_zero_iff.mp size.symm
              exact ⟨⟨status, rfl⟩, ih sizes same⟩
          | cons f fs =>
              cases features' with
              | nil => cases size
              | cons f' fs' =>
                  obtain ⟨ids, later⟩ := Block.ids_of_append_eq (by simpa [Block.ofGroup] using size) same
                  exact ⟨⟨status, ids⟩, ih sizes later⟩

end Report

namespace Analysis

theorem groups_sizes {a : Analysis} (sound : a.Sound) :
    a.groups.map (fun g => (g.1, g.2.length)) = Support.all.map fun s => (s, a.summary.count s) := by
  rw [groups, List.map_map]
  refine List.map_congr_left fun s mem => ?_
  exact congrArg (Prod.mk s) (length_group sound (List.mem_map_of_mem mem))

/-- A feature that is found is known by its identifier and its status. -/
theorem groups_of_ids {a : Analysis} (found : ∀ f ∈ a.features, f.found = true) :
    (a.groups.map fun g => (g.1, g.2.map Feature.id)).map
      (fun g => (g.1, g.2.map fun id => Feature.detected id g.1)) = a.groups := by
  rw [List.map_map]
  refine (List.map_congr_left fun g mem => ?_).trans (List.map_id _)
  obtain ⟨s, features⟩ := g
  have part := mem_groups mem
  simp only [Function.comp_apply, List.map_map, id_eq, Prod.mk.injEq, true_and]
  refine (List.map_congr_left fun f here => ?_).trans (List.map_id _)
  dsimp only at part
  rw [part, List.mem_filter, decide_eq_true_eq] at here
  rw [Function.comp_apply, Feature.detected, ← here.2, ← found f here.1]
  rfl

theorem eq_of_groups_eq {a b : Analysis} (sound : a.Sound) (sound' : b.Sound)
    (same : a.groups = b.groups) : a = b := by
  have features : a.features = b.features := by
    rw [← groups_flatMap sound, ← groups_flatMap sound', same]
  rw [sound.eq_ofSorted, sound'.eq_ofSorted, features]

end Analysis

namespace Report

/-- An outcome whose features are all found, under identifiers of one line each. -/
structure Shown (a : Analysis) : Prop extends a.Sound where
  found : ∀ f ∈ a.features, f.found = true
  plain : ∀ f ∈ a.features, OneLine f.id

/-- Only reports without features say so where others have their summary. -/
theorem eq_of_markdownBody_eq {a b : Analysis} (shown : Shown a) (shown' : Shown b)
    (same : markdownBody a = markdownBody b) : a = b := by
  rw [markdownBody, markdownBody] at same
  cases empty : a.isEmpty with
  | true =>
      cases empty' : b.isEmpty with
      | true =>
          rw [shown.eq_ofSorted, shown'.eq_ofSorted, List.isEmpty_iff.mp empty,
            List.isEmpty_iff.mp empty']
      | false => simp [empty, empty', markdownSummary] at same
  | false =>
      cases empty' : b.isEmpty with
      | true => simp [empty, empty', markdownSummary] at same
      | false =>
          simp only [empty, empty', Bool.false_eq_true, if_false, List.append_assoc] at same
          obtain ⟨summary, rest⟩ := List.append_inj same rfl
          have summary := summary_of_markdown_eq summary
          have sizes := Analysis.groups_sizes shown.toSound
          rw [summary, ← Analysis.groups_sizes shown'.toSound] at sizes
          have ids := ids_of_markdown_eq sizes (List.append_cancel_right rest)
          apply Analysis.eq_of_groups_eq shown.toSound shown'.toSound
          rw [← Analysis.groups_of_ids shown.found, ids, Analysis.groups_of_ids shown'.found]

/-- The Markdown report tells outcomes apart. -/
theorem eq_of_markdown_eq {a b : Analysis} (shown : Shown a) (shown' : Shown b) {time : Instant}
    (same : markdown a time = markdown b time) : a = b := by
  have same := congrArg lines same
  rw [lines_markdown shown.plain, lines_markdown shown'.plain, List.append_assoc,
    List.append_assoc] at same
  obtain ⟨_, body⟩ := List.append_inj same rfl
  exact eq_of_markdownBody_eq shown shown' (List.append_cancel_right body)

/-- Identifiers that look like parts of a report. -/
theorem reports_of_headings :
    let features : List Feature :=
      [.detected "### \u2705 Baseline (3)" .baseline, .detected "---" .unknown]
    let a := Analysis.ofSorted features
    let b : Analysis := ⟨.mixed, features, ⟨2, 1, 0, 1⟩⟩
    markdown a ⟨0, 0⟩ = markdown b ⟨0, 0⟩ ∧ a = b := by
  intro features a b
  have ordered : features.Pairwise Feature.Precedes := by
    simp [features, Feature.Precedes, Feature.detected, Support.priority]
  have found : ∀ f ∈ features, f.found = true := by decide
  have plain : ∀ f ∈ features, OneLine f.id := by decide
  have shown : Shown a := ⟨Analysis.sound_ofSorted ordered (by decide), found, plain⟩
  have shown' : Shown b := ⟨⟨ordered, by decide, by decide, by decide⟩, found, plain⟩
  have same : markdown a ⟨0, 0⟩ = markdown b ⟨0, 0⟩ := by decide +kernel
  exact ⟨same, eq_of_markdown_eq shown shown' same⟩

end Report
end FeatureScan
