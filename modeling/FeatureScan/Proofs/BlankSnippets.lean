import FeatureScan.App
import FeatureScan.Proofs.SpecialFeatures
import FeatureScan.Store.Memory
import Mathlib.Data.List.TakeWhile

/-!
Snippets of blanks. They are refused before the scan, and the scan would find nothing in them,
as each built-in pattern takes a character that is not blank. So no finding is lost to the
refusal.
-/

namespace FeatureScan

theorem Text.trim_eq_empty_iff (s : String) :
    trim s = "" ↔ ∀ c ∈ s.toList, isBlank c = true := by
  rw [← String.toList_eq_nil_iff, toList_trim, dropLastBlanks, List.reverse_eq_nil_iff,
    List.dropWhile_eq_nil_iff]
  constructor
  · intro blank c mem
    rw [← List.takeWhile_append_dropWhile (p := isBlank) (l := s.toList)] at mem
    rcases List.mem_append.mp mem with taken | left
    · exact List.mem_takeWhile_imp taken
    · exact blank c (List.mem_reverse.mpr left)
  · intro blank c left
    exact blank c ((List.dropWhile_sublist isBlank).mem (List.mem_reverse.mp left))

/-- A snippet is refused if it is empty without the blanks at its two ends. -/
theorem requireCode_eq (code : String) :
    requireCode code =
      if Text.trim code = "" then .error (.invalidInput emptyInputMessage) else .ok code := by
  simp only [requireCode, Text.trim_eq_empty_iff, Text.allBlank, List.all_eq_true]

namespace Catalog

open Pattern (Regex)

theorem builtin_takesSolid {s : Signature} (mem : s ∈ builtin.signatures) {rule : Rule}
    (hr : rule ∈ s.rules) : rule.pattern.takesSolid = true := by
  rcases builtin_rule mem hr with ⟨r, rfl, vetted⟩ | guarded
  · exact (Regex.vetted_iff.mp vetted).2.2
  · have solid : (Signatures.guardedText.compile? .standard).all (·.pattern.takesSolid) = true := by
      decide +kernel
    rwa [guarded] at solid

section

variable {code : String} (blank : ∀ c ∈ code.toList, Text.isBlank c = true)
include blank

theorem detect_blank (d : Dataset) : builtin.detect code d = [] := by
  refine List.eq_nil_iff_forall_not_mem.mpr fun f found => ?_
  obtain ⟨_, s, mem, shown, _⟩ := mem_detect.mp found
  obtain ⟨rule, hr, shows⟩ := List.any_eq_true.mp shown
  obtain ⟨i, j, _, here⟩ := Rule.exists_matches shows
  obtain ⟨c, taken, solid⟩ := Regex.exists_solid_of_matches (builtin_takesSolid mem hr) here
  rw [blank c (List.mem_toArray.mp taken)] at solid
  cases solid

theorem analyze_blank (d : Dataset) : builtin.analyze code d = .empty := by
  rw [analyze, detect_blank blank, Analysis.empty]

end
end Catalog

namespace App

variable {m : Type → Type}

/-- An analysis fails for the snippets of blanks and for no other. It is the analysis of the
snippet with all its blanks, and for a snippet of blanks that one has no features. -/
theorem refusal_loses_nothing (app : App m) (code : String) :
    let blank := ∀ c ∈ code.toList, Text.isBlank c = true
    ((∃ fault, app.analyze code = .error fault) ↔ blank) ∧
      (blank → app.analyze code = .error (.invalidInput emptyInputMessage)) ∧
      (¬blank → app.analyze code = .ok (Catalog.builtin.analyze code app.dataset)) ∧
      (blank → ∀ d, Catalog.builtin.analyze code d = .empty) := by
  intro blank
  have refused : blank → app.analyze code = .error (.invalidInput emptyInputMessage) := by
    intro h
    rw [analyze, requireCode_eq, if_pos ((Text.trim_eq_empty_iff code).mpr h)]
    rfl
  have analyzed :
      ¬blank → app.analyze code = .ok (Catalog.builtin.analyze code app.dataset) := by
    intro h
    rw [analyze, requireCode_eq, if_neg (mt (Text.trim_eq_empty_iff code).mp h)]
    rfl
  refine ⟨⟨fun ⟨fault, failed⟩ => ?_, fun h => ⟨_, refused h⟩⟩, refused, analyzed,
    Catalog.analyze_blank⟩
  by_contra h
  rw [analyzed h] at failed
  cases failed

/-- Spaces of two kinds around a line break are blank, a space of no width is not. -/
theorem wide_spaces_refused :
    let app : App (StateM (Dictionary String)) := ⟨.builtin, .memory⟩
    app.analyze "\u2003\u2028\u3000" = .error (.invalidInput emptyInputMessage) ∧
      Catalog.builtin.analyze "\u2003\u2028\u3000" .builtin = .empty ∧
      app.analyze " \u200b" = .ok (Catalog.builtin.analyze " \u200b" .builtin) := by
  intro app
  have blank : ∀ c ∈ "\u2003\u2028\u3000".toList, Text.isBlank c = true :=
    List.all_eq_true.mp (by decide)
  have solid : ¬ ∀ c ∈ " \u200b".toList, Text.isBlank c = true :=
    fun all => absurd (all '\u200b' (by decide)) (by decide)
  obtain ⟨_, refused, _, nothing⟩ := refusal_loses_nothing app "\u2003\u2028\u3000"
  obtain ⟨_, _, analyzed, _⟩ := refusal_loses_nothing app " \u200b"
  exact ⟨refused blank, nothing blank .builtin, analyzed solid⟩

end App
end FeatureScan
