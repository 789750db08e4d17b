import FeatureScan.Proofs.AwaitedLines
import FeatureScan.Proofs.DetectedFeatures

/-!
Two snippets with a line feed between them show at least what each of them shows. A plain
rule sees in the line feed an end of the text. For the guarded one the line feed ends the line
on which the rejected word is looked for, whether the blanks run over it or not.
-/

namespace FeatureScan

open Pattern (Regex StandsAt)

namespace LineGuard

/-- The guarded rule of the tables. -/
def awaitingRule : Rule := .guarded awaiting (Regex.word function)

theorem compile?_guardedText : Signatures.guardedText.compile? .standard = some awaitingRule := by
  decide +kernel

theorem isMatch_awaitingRule {text : List Char} :
    awaitingRule.isMatch (.ofArray text.toArray) = true ↔
      ∃ before word blanks rest, AwaitedOutside text before word blanks rest := by
  refine (isMatch_guarded_iff awaiting (Regex.word function) _).trans ⟨?_, ?_⟩
  · rintro ⟨m, mem, passes⟩
    exact awaitedOutside_of_passes mem passes
  · rintro ⟨before, word, blanks, rest, awaited⟩
    exact passes_of_awaitedOutside awaited

/-- The blanks at the end of one line, with the word at the start of the next. -/
example : awaitingRule.isMatch (.ofArray "await \nfunction".toList.toArray) = true ∧
    awaitingRule.isMatch (.ofArray "await function".toList.toArray) = false := by
  decide +kernel

section

variable {before word blanks rest : List Char}

theorem takeWhile_append_lineFeed (line b : List Char) :
    (line ++ '\n' :: b).takeWhile (fun c => !Text.isLineBreak c) =
      line.takeWhile fun c => !Text.isLineBreak c := by
  induction line with
  | nil => rfl
  | cons c line ih => rw [List.cons_append, List.takeWhile_cons, List.takeWhile_cons, ih]

theorem AwaitedOutside.join_right {a : List Char} (h : AwaitedOutside a before word blanks rest)
    (b : List Char) : AwaitedOutside (a ++ '\n' :: b) before word blanks (rest ++ '\n' :: b) := by
  obtain ⟨⟨whole, word_eq, some_blank, all_blank⟩, free⟩ := h
  refine ⟨⟨?_, word_eq, some_blank, all_blank⟩, ?_⟩
  · rw [whole, List.append_assoc _ rest]
  · rwa [takeWhile_append_lineFeed]

theorem AwaitedOutside.join_left {b : List Char} (h : AwaitedOutside b before word blanks rest)
    (a : List Char) :
    AwaitedOutside (a ++ '\n' :: b) (a ++ '\n' :: before) word blanks rest := by
  obtain ⟨⟨whole, word_eq, some_blank, all_blank⟩, free⟩ := h
  refine ⟨⟨?_, word_eq, some_blank, all_blank⟩, free⟩
  rw [whole]
  simp only [List.append_assoc, List.cons_append]

end
end LineGuard

theorem Pattern.Regex.isMatch_of_standsAt {part whole : Array Char} {start : Nat}
    (stands : StandsAt part whole start) {r : Regex} (joinable : r.joinable = true)
    (shows : r.isMatch (.ofArray part) = true) : r.isMatch (.ofArray whole) = true := by
  obtain ⟨i, j, bound, here⟩ := (Regex.isMatch_iff part r).mp shows
  have there := stands.matches_whole joinable bound here
  exact (Regex.isMatch_iff whole r).mpr ⟨start + i, start + j, stands.le_size bound, there⟩

namespace Catalog

section

variable {s : Signature} (mem : s ∈ builtin.signatures) {rule : Rule} (hr : rule ∈ s.rules)
include mem hr

theorem builtin_rule_cases :
    (∃ r, rule = .anywhere r ∧ r.joinable = true) ∨ rule = LineGuard.awaitingRule := by
  rcases builtin_rule mem hr with ⟨r, rfl, vetted⟩ | guarded
  · exact .inl ⟨r, rfl, (Regex.vetted_iff.mp vetted).1⟩
  · exact .inr (Option.some.inj (guarded.symm.trans LineGuard.compile?_guardedText))

theorem isMatch_join_right {a : List Char} (shows : rule.isMatch (.ofArray a.toArray) = true)
    (b : List Char) : rule.isMatch (.ofArray (a ++ '\n' :: b).toArray) = true := by
  rcases builtin_rule_cases mem hr with ⟨r, rfl, joinable⟩ | rfl
  · exact Regex.isMatch_of_standsAt (Pattern.standsAt_first a b) joinable shows
  · obtain ⟨before, word, blanks, rest, awaited⟩ := LineGuard.isMatch_awaitingRule.mp shows
    exact LineGuard.isMatch_awaitingRule.mpr ⟨_, _, _, _, awaited.join_right b⟩

theorem isMatch_join_left {b : List Char} (shows : rule.isMatch (.ofArray b.toArray) = true)
    (a : List Char) : rule.isMatch (.ofArray (a ++ '\n' :: b).toArray) = true := by
  rcases builtin_rule_cases mem hr with ⟨r, rfl, joinable⟩ | rfl
  · exact Regex.isMatch_of_standsAt (Pattern.standsAt_second a b) joinable shows
  · obtain ⟨before, word, blanks, rest, awaited⟩ := LineGuard.isMatch_awaitingRule.mp shows
    exact LineGuard.isMatch_awaitingRule.mpr ⟨_, _, _, _, awaited.join_left a⟩

end

/-- A text that matches every rule that another one matches is reported with at least the
same features. -/
theorem detect_subset {c : Catalog} {d : Dataset} {text text' : String} (nonempty : text' ≠ "")
    (more : ∀ s ∈ c.signatures, ∀ rule ∈ s.rules,
      rule.isMatch (.ofArray text.toList.toArray) = true →
        rule.isMatch (.ofArray text'.toList.toArray) = true) :
    c.detect text d ⊆ c.detect text' d := by
  intro f found
  obtain ⟨_, s, mem, shown, rfl⟩ := mem_detect.mp found
  obtain ⟨rule, hr, here⟩ := List.any_eq_true.mp shown
  exact mem_detect.mpr
    ⟨nonempty, s, mem, List.any_eq_true.mpr ⟨rule, hr, more s mem rule hr here⟩, rfl⟩

/-- Whatever is detected in one of two snippets is detected, with the same status, in the
snippets joined by a line feed. -/
theorem detect_join (a b : String) (d : Dataset) :
    builtin.detect a d ⊆ builtin.detect (a ++ "\n" ++ b) d ∧
      builtin.detect b d ⊆ builtin.detect (a ++ "\n" ++ b) d := by
  have chars : (a ++ "\n" ++ b).toList = a.toList ++ '\n' :: b.toList := by
    simp [String.toList_append]
  have nonempty : a ++ "\n" ++ b ≠ "" := by
    intro empty
    rw [empty] at chars
    simp at chars
  refine ⟨detect_subset nonempty fun s mem rule hr here => ?_,
    detect_subset nonempty fun s mem rule hr here => ?_⟩
  · rw [chars]
    exact isMatch_join_right mem hr here b.toList
  · rw [chars]
    exact isMatch_join_left mem hr here a.toList

end Catalog
end FeatureScan
