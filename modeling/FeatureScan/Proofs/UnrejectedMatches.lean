import FeatureScan.Proofs.AwaitedLines
import FeatureScan.Proofs.Pattern.Cut
import FeatureScan.Proofs.Pattern.EscapedWords

/-!
What a guarded rule counts. It counts a match after which the rejected word does not follow on
the line, or else a match that can end before a line break. For the latter the pattern is tried
on the text up to the line break, as if the text ended there, and the word is not looked for. So
the two come to the same unless the word is empty or the pattern tells a line break from the end
of the text.
-/

namespace FeatureScan
namespace LineGuard

open Pattern (Regex Reader Haystack)
open Pattern.Regex (Matches word)

/-- The pattern matches a part of the text, and the word does not follow on the rest of the
line. -/
def Unrejected (pattern : Regex) (w text : String) : Prop :=
  ∃ i j, i ≤ j ∧ j ≤ text.toList.length ∧ Matches text.toList.toArray pattern i j ∧
    ¬ Mentions w.toList (restOfLine text.toList j)

/-- The pattern matches from `i` on over the line break `c` at `b`, and it matches up to the line
break if the text ends there. -/
structure CutShort (pattern : Regex) (text : Array Char) (i b : Nat) (c : Char) : Prop where
  at_b : text[b]? = some c
  lineBreak : Text.isLineBreak c = true
  beyond : ∃ j, b < j ∧ Matches text pattern i j
  cut : Matches (upTo text b) pattern i b

theorem CutShort.of_canEndAtBreak {pattern : Regex} {text : Array Char} {m : Nat × Nat}
    (found : m ∈ pattern.findAll text) (ends : canEndAtBreak pattern text m = true) :
    ∃ b c, CutShort pattern text m.1 b c := by
  obtain ⟨b, _, inside, lineBreak, cut⟩ := canEndAtBreak_iff.mp ends
  obtain ⟨c, at_b, lineBreak⟩ := (Option.any_eq_true _ _).mp lineBreak
  have whole := Regex.matches_of_matchAt (Regex.mem_findAll found).2
  exact ⟨b, c, at_b, lineBreak, ⟨m.2, inside, whole⟩, Regex.matches_of_matchAt cut⟩

/-- Nothing is left of a line at its end, and only the empty word occurs in nothing. -/
theorem eq_nil_of_mentions_nil {w : List Char} (h : Mentions w []) : w = [] := by
  obtain ⟨u, inside, same⟩ := h
  rw [List.infix_nil.mp inside] at same
  cases same
  rfl

theorem CutShort.unrejected {pattern : Regex} {w text : String} {i b : Nat} {c : Char}
    (h : CutShort pattern text.toList.toArray i b c) (some_char : w ≠ "")
    (takes : pattern.takesForEnd c = true) : Unrejected pattern w text := by
  obtain ⟨within, _⟩ := Array.getElem?_eq_some_iff.mp h.at_b
  have low : i ≤ b := h.cut.le
  refine ⟨i, b, low, Nat.le_of_lt within, Regex.matches_of_cut h.at_b takes low h.cut, ?_⟩
  have at_b : text.toList[b]?.any Text.isLineBreak = true := by
    rw [← List.getElem?_toArray, h.at_b]
    exact h.lineBreak
  rw [restOfLine_of_lineBreak at_b]
  exact fun mentions => some_char (String.toList_eq_nil_iff.mp (eq_nil_of_mentions_nil mentions))

theorem unrejected_or_cutShort {pattern : Regex} {w text : String}
    (h : (Rule.guarded pattern (word w.toList)).isMatch (.ofArray text.toList.toArray) = true) :
    Unrejected pattern w text ∨ ∃ i b c, CutShort pattern text.toList.toArray i b c ∧
      (w = "" ∨ pattern.takesForEnd c = false) := by
  obtain ⟨m, found, ends | free⟩ := (guarded_iff_some_match_free pattern w text).mp h
  · obtain ⟨b, c, cut⟩ := CutShort.of_canEndAtBreak found ends
    by_cases empty : w = ""
    · exact .inr ⟨m.1, b, c, cut, .inl empty⟩
    · cases takes : pattern.takesForEnd c with
      | true => exact .inl (cut.unrejected empty takes)
      | false => exact .inr ⟨m.1, b, c, cut, .inr takes⟩
  · obtain ⟨bound, here⟩ := Regex.mem_findAll found
    have whole := Regex.matches_of_matchAt here
    exact .inl ⟨m.1, m.2, whole.le, whole.le_size bound, whole, free⟩

/-- A guarded rule of a catalog matches only where it counts a match that the word does not
reject. This leaves out the matches that are cut short at a line break, where the word is empty
or an anchor of the pattern sees a difference between the line break and the end of the text. Of
the reader that the catalog was made with only its reading of escaped words matters. -/
theorem guarded_rules_count_unrejected {reader : Reader} (literal : reader.ReadsWords)
    {tables : List Table} {catalog : Catalog}
    (made : Catalog.ofTables tables reader = .ok catalog) {s : Signature}
    (mem : s ∈ catalog.signatures) {pattern rejected : Regex}
    (guarded : .guarded pattern rejected ∈ s.rules) :
    ∃ p w, (∃ t ∈ tables, ∃ texts, (s.id, texts) ∈ t.entries ∧ .unlessLineHolds p w ∈ texts) ∧
      reader.read p = .ok pattern ∧ reader.read (reader.escape w) = .ok rejected ∧
      ∀ text : String,
        (Rule.guarded pattern rejected).isMatch (.ofArray text.toList.toArray) = true →
          Unrejected pattern w text ∨ ∃ i b c, CutShort pattern text.toList.toArray i b c ∧
            (w = "" ∨ pattern.takesForEnd c = false) := by
  obtain ⟨t, ht, texts, he, text, htext, compiled⟩ := Catalog.exists_ruleText made mem guarded
  cases text with
  | anywhere p =>
      obtain ⟨r, _, same⟩ := Option.map_eq_some_iff.mp compiled
      cases same
  | unlessLineHolds p w =>
      obtain ⟨read, escaped⟩ := RuleText.compile?_unlessLineHolds.mp compiled
      refine ⟨p, w, ⟨t, ht, texts, he, htext⟩, read, escaped, fun text shows => ?_⟩
      rw [isMatch_guarded_congr (literal w rejected escaped)] at shows
      exact unrejected_or_cutShort shows

theorem awaiting_takesForEnd (c : Char) : awaiting.takesForEnd c = true := by
  rfl

/-- The built-in rule counts the first blank only, since the second one ends the line. -/
theorem awaiting_counts_unrejected :
    let text := "await \nfunction load() {}"
    ∃ s ∈ Catalog.builtin.signatures, .guarded awaiting (word function) ∈ s.rules ∧
      (Rule.guarded awaiting (word function)).isMatch (.ofArray text.toList.toArray) = true ∧
      ∃ w, word function = word w.toList ∧ Unrejected awaiting w text := by
  intro text
  obtain ⟨mem, _⟩ := Catalog.get?_eq_some_iff.mp builtin_topLevelAwait
  have guarded : Rule.guarded awaiting (word function) ∈ [.guarded awaiting (word function)] :=
    List.mem_singleton_self _
  have here : (Rule.guarded awaiting (word function)).isMatch (.ofArray text.toList.toArray) =
      true := by decide +kernel
  obtain ⟨p, w, _, _, escaped, counts⟩ :=
    guarded_rules_count_unrejected Reader.readsWords_standard Catalog.ofTables_builtin mem guarded
  have same : word function = word w.toList := Reader.eq_word_of_read escaped
  refine ⟨_, mem, guarded, here, w, same, ?_⟩
  rcases counts text here with unrejected | ⟨_, _, c, _, empty | sees⟩
  · exact unrejected
  · rw [empty] at same
    exact absurd same (by decide)
  · rw [awaiting_takesForEnd] at sees
    cases sees

/-- The letter at the end of the text, or with another one behind a line feed. -/
def atEndOrOver : Regex :=
  .alt (.seq (.letter 'x') (.look .textEnd))
    (.seq (.letter 'x') (.seq (.letter '\n') (.letter 'y')))

def blankAfter : Regex := .seq (.letter 'x') (.plus true (.chars .blank))

def endTables : List Table :=
  [⟨.js, [("over", [.unlessLineHolds "x$|x\\ny" "function"]),
    ("blank", [.unlessLineHolds "x\\s+" ""])]⟩]

theorem signatures_endTables : (Catalog.ofTables endTables).toOption.map Catalog.signatures =
    some [⟨"over", .js, [.guarded atEndOrOver (word function)]⟩,
      ⟨"blank", .js, [.guarded blankAfter (word [])]⟩] := by
  decide +kernel

/-- The empty word occurs on every line, so no match is free of it. -/
theorem not_unrejected_empty (pattern : Regex) (text : String) : ¬ Unrejected pattern "" text :=
  fun ⟨_, _, _, _, _, free⟩ => free ⟨[], List.nil_infix, .nil⟩

theorem not_unrejected_atEndOrOver : ¬ Unrejected atEndOrOver "function" "x\ny function" := by
  rintro ⟨i, j, le, bound, here, free⟩
  have reached : (atEndOrOver.reach (.ofArray "x\ny function".toList.toArray)
      (Haystack.ofArray "x\ny function".toList.toArray).all).testBit j = true :=
    (Regex.reach_all_iff _ atEndOrOver j).mpr ⟨i, Nat.le_trans le bound, here⟩
  -- There is only the match over the line feed, and the word stands behind it.
  have only : atEndOrOver.reach (.ofArray "x\ny function".toList.toArray)
      (Haystack.ofArray "x\ny function".toList.toArray).all = 2 ^ 3 := by decide +kernel
  rw [only, Nat.testBit_two_pow, decide_eq_true_eq] at reached
  subst reached
  refine free ⟨function, ⟨[' '], [], by decide⟩, ?_⟩
  exact (Pattern.inAnyCase_iff_toLower plain_function).mpr (by decide)

/-- A rule whose one match is followed by the rejected word counts it all the same, as the
pattern also matches where the text is cut at the line break. Another one rejects the empty word,
which is on every line, and counts a match that can end at one. -/
theorem rejected_matches_counted :
    ∃ catalog, Catalog.ofTables endTables = .ok catalog ∧
      (∃ s ∈ catalog.signatures, .guarded atEndOrOver (word "function".toList) ∈ s.rules ∧
        (Rule.guarded atEndOrOver (word "function".toList)).isMatch
          (.ofArray "x\ny function".toList.toArray) = true ∧
        ¬ Unrejected atEndOrOver "function" "x\ny function") ∧
      ∃ s ∈ catalog.signatures, .guarded blankAfter (word "".toList) ∈ s.rules ∧
        (Rule.guarded blankAfter (word "".toList)).isMatch (.ofArray "x \n".toList.toArray) = true ∧
        ¬ Unrejected blankAfter "" "x \n" := by
  have listed := signatures_endTables
  cases made : Catalog.ofTables endTables with
  | error fault =>
      rw [made] at listed
      cases listed
  | ok catalog =>
      rw [made] at listed
      have signatures : catalog.signatures = _ := Option.some.inj listed
      refine ⟨catalog, rfl, ?_, ?_⟩ <;> rw [signatures]
      · exact ⟨_, List.mem_cons_self, List.mem_singleton_self _, by decide +kernel,
          not_unrejected_atEndOrOver⟩
      · exact ⟨_, List.mem_cons_of_mem _ List.mem_cons_self, List.mem_singleton_self _,
          by decide +kernel, not_unrejected_empty _ _⟩

end LineGuard
end FeatureScan
