import FeatureScan.Proofs.BuiltinTables
import FeatureScan.Proofs.DetectedFeatures
import FeatureScan.Proofs.LineGuard

/-!
Detection with the built-in catalog is blind to the case of ASCII letters. Two texts that are
the same in small letters have their lines in the same places, so also a guarded rule gives
the same answer for both: each of its searches does.
-/

namespace FeatureScan

open Pattern (Regex SameLetters Haystack)

namespace LineGuard

variable {text text' : Array Char} {pattern rejected : Regex}

theorem isLineBreak_toLower (c : Char) : Text.isLineBreak c.toLower = Text.isLineBreak c := by
  refine Pattern.forall_char_of_ascii (P := fun c => Text.isLineBreak c.toLower = Text.isLineBreak c)
    ?_ (fun c same => by rw [same]) c
  decide +kernel

theorem upTo_sameLetters (same : SameLetters text text') (i : Nat) :
    SameLetters (upTo text i) (upTo text' i) := same.extract 0 i

theorem findIdx?_lineBreak (text : Array Char) :
    (text.map Char.toLower).findIdx? Text.isLineBreak = text.findIdx? Text.isLineBreak := by
  have blind : Text.isLineBreak ∘ Char.toLower = Text.isLineBreak := funext isLineBreak_toLower
  rw [Array.findIdx?_map, blind]

theorem lineEnd_eq_of_sameLetters (same : SameLetters text text') (i : Nat) :
    lineEnd text i = lineEnd text' i := by
  have breaks := congrArg (Array.findIdx? Text.isLineBreak) (same.extract i text.size)
  rw [findIdx?_lineBreak, findIdx?_lineBreak] at breaks
  rw [lineEnd, lineEnd, breaks, same.size_eq]

theorem canEndAtBreak_eq_of_sameLetters (same : SameLetters text text')
    (blind : pattern.caseBlind = true) (m : Nat × Nat) :
    canEndAtBreak pattern text m = canEndAtBreak pattern text' m := by
  unfold canEndAtBreak
  congr 1
  funext b
  rw [same.any_eq isLineBreak_toLower,
    Regex.matchAt_eq_of_sameLetters (upTo_sameLetters same b) blind]

theorem clear_iff_of_sameLetters (same : SameLetters text text') (blind : rejected.caseBlind = true)
    (e : Nat) : Clear rejected text e ↔ Clear rejected text' e := by
  unfold Clear
  rw [lineEnd_eq_of_sameLetters same]
  simp only [Regex.startsAt_iff_of_sameLetters (upTo_sameLetters same _) blind]

end LineGuard

namespace Rule

def caseBlind : Rule → Bool
  | .anywhere p => p.caseBlind
  | .guarded p rejected => p.caseBlind && rejected.caseBlind

theorem isMatch_eq_of_sameLetters {text text' : Array Char} (same : SameLetters text text')
    {rule : Rule} (blind : rule.caseBlind = true) :
    rule.isMatch (.ofArray text) = rule.isMatch (.ofArray text') := by
  cases rule with
  | anywhere p => exact Regex.isMatch_eq_of_sameLetters same blind
  | guarded p rejected =>
      obtain ⟨pattern_blind, rejected_blind⟩ := Bool.and_eq_true_iff.mp blind
      rw [Bool.eq_iff_iff, LineGuard.isMatch_guarded_iff, LineGuard.isMatch_guarded_iff]
      simp only [Haystack.ofArray, Regex.findAll_eq_of_sameLetters same pattern_blind,
        LineGuard.canEndAtBreak_eq_of_sameLetters same pattern_blind,
        LineGuard.clear_iff_of_sameLetters same rejected_blind]

end Rule

namespace Catalog

theorem builtin_caseBlind {s : Signature} (mem : s ∈ builtin.signatures) {rule : Rule}
    (hr : rule ∈ s.rules) : rule.caseBlind = true := by
  rcases builtin_rule mem hr with ⟨r, rfl, vetted⟩ | guarded
  · exact (Regex.vetted_iff.mp vetted).2.1
  · have blind : (Signatures.guardedText.compile? .standard).all Rule.caseBlind = true := by
      decide +kernel
    rwa [guarded] at blind

theorem shown_builtin_eq {text text' : String}
    (same : text.toList.map Char.toLower = text'.toList.map Char.toLower) :
    builtin.shown text = builtin.shown text' := by
  have letters : SameLetters text.toList.toArray text'.toList.toArray := by
    unfold SameLetters
    rw [List.map_toArray, List.map_toArray, same]
  refine List.filter_congr fun s mem => ?_
  unfold Signature.shownBy
  rw [Bool.eq_iff_iff, List.any_eq_true, List.any_eq_true]
  refine exists_congr fun rule => and_congr_right fun hr => ?_
  rw [Rule.isMatch_eq_of_sameLetters letters (builtin_caseBlind mem hr)]

/-- The built-in catalog detects the same features, and so gives the same outcome, in texts
that differ in nothing but the case of ASCII letters. -/
theorem detect_blind_to_case {text text' : String}
    (same : text.toList.map Char.toLower = text'.toList.map Char.toLower) (d : Dataset) :
    builtin.detect text d = builtin.detect text' d ∧
      builtin.analyze text d = builtin.analyze text' d := by
  have detected : builtin.detect text d = builtin.detect text' d := by
    by_cases nonempty : text = ""
    · have nothing : text'.toList = [] := by simpa [nonempty] using same.symm
      rw [nonempty, String.toList_eq_nil_iff.mp nothing]
    · have nonempty' : text' ≠ "" := by
        rintro rfl
        exact nonempty (String.toList_eq_nil_iff.mp (by simpa using same))
      rw [detect_of_ne builtin d nonempty, detect_of_ne builtin d nonempty', shown_builtin_eq same]
  exact ⟨detected, congrArg Analysis.ofSorted detected⟩

/-- A tag, a property and an awaited call in changing case. -/
theorem detect_blind_to_mixed_case :
    let text := "<DIALOG> Display: GRID; Await Load()"
    let text' := "<dialog> dISPLAY: grid; aWAIT lOAD()"
    let d : Dataset := .ofFlags [("dialog", some true), ("top-level-await", some false)]
    text ≠ text' ∧ text.toList.map Char.toLower = text'.toList.map Char.toLower ∧
      builtin.detect text d = builtin.detect text' d ∧
      builtin.analyze text d = builtin.analyze text' d := by
  intro text text' d
  have same : text.toList.map Char.toLower = text'.toList.map Char.toLower := by decide
  exact ⟨by decide, same, detect_blind_to_case same d⟩

end Catalog
end FeatureScan
