import FeatureScan.Proofs.JoinedSnippets
import FeatureScan.Proofs.LoopHeads

/-!
Line ends as a line feed or as a carriage return with a line feed. All but two of the built-in
rules are blind to the difference. The guarded rule may end a match between the two characters,
and the rule for loops counts them, so that each of the two finds more in the longer text, and it
can be told from the shorter one what that is.
-/

namespace FeatureScan

open Pattern (Regex PlainLetter)
open Text (isBlank isLineBreak withReturns withReturns_append withReturns_cons_lineFeed
  withReturns_cons_of_ne withReturns_eq_self withReturns_eq_nil exists_around_word
  forall_mem_withReturns)

namespace Text

variable {s word w : List Char}

theorem unbroken_of_toLower (same : word.map Char.toLower = w) (plain : ∀ c ∈ w, PlainLetter c) :
    ∀ c ∈ word, c ≠ '\r' ∧ c ≠ '\n' := by
  intro c mem
  have letter : PlainLetter c.toLower := plain _ (same ▸ List.mem_map_of_mem mem)
  constructor
  · rintro rfl
    exact absurd letter (by decide)
  · rintro rfl
    exact absurd letter (by decide)

theorem withReturns_word (same : word.map Char.toLower = w) (plain : ∀ c ∈ w, PlainLetter c) :
    withReturns word = word :=
  withReturns_eq_self fun mem => (unbroken_of_toLower same plain '\n' mem).2 rfl

theorem all_blank_withReturns : (∀ c ∈ withReturns s, isBlank c = true) ↔ ∀ c ∈ s, isBlank c = true :=
  forall_mem_withReturns rfl rfl

theorem begins_with_blank_iff : (∃ c t, withReturns s = c :: t ∧ isBlank c = true) ↔
    ∃ c t, s = c :: t ∧ isBlank c = true := by
  cases s with
  | nil => simp [withReturns]
  | cons c s =>
      by_cases feed : c = '\n'
      · rw [feed, withReturns_cons_lineFeed]
        exact iff_of_true ⟨_, _, rfl, rfl⟩ ⟨_, _, rfl, rfl⟩
      · rw [withReturns_cons_of_ne feed]
        constructor
        · rintro ⟨_, _, same, blank⟩
          cases same
          exact ⟨c, s, rfl, blank⟩
        · rintro ⟨_, _, same, blank⟩
          cases same
          exact ⟨c, withReturns s, rfl, blank⟩

theorem line_withReturns (s : List Char) :
    (withReturns s).takeWhile (fun c => !isLineBreak c) = s.takeWhile fun c => !isLineBreak c := by
  induction s with
  | nil => rfl
  | cons c s ih =>
      by_cases feed : c = '\n'
      · rw [feed, withReturns_cons_lineFeed]
        rfl
      · rw [withReturns_cons_of_ne feed, List.takeWhile_cons, List.takeWhile_cons, ih]

end Text

namespace LoopHead

variable {s m : List Char}

theorem declares_concat {front : List Char} {last : Char} :
    Declares (front ++ [last]) ↔
      front ≠ [] ∧ (∀ c ∈ front, wordOrBlank.contains c = true) ∧ isBlank last = true := by
  constructor
  · rintro ⟨front', last', same, rest⟩
    obtain ⟨rfl, single⟩ := List.append_inj' same rfl
    cases single
    exact rest
  · exact fun rest => ⟨front, last, rfl, rest⟩

/-- A single line feed is too little for the rule, the two characters are enough. -/
theorem declares_withReturns : Declares (withReturns m) ↔ Declares m ∨ m = ['\n'] := by
  obtain rfl | ⟨front, last, rfl⟩ := List.eq_nil_or_concat' m
  · simp [withReturns]
  · have all : (∀ c ∈ withReturns front, wordOrBlank.contains c = true) ↔
        ∀ c ∈ front, wordOrBlank.contains c = true := forall_mem_withReturns rfl rfl
    by_cases feed : last = '\n'
    · have split : withReturns (front ++ [last]) = (withReturns front ++ ['\r']) ++ ['\n'] := by
        rw [feed, withReturns_append, List.append_assoc]
        rfl
      have blank : isBlank '\n' = true := rfl
      have ret : wordOrBlank.contains '\r' = true := rfl
      rw [split, declares_concat, declares_concat, List.forall_mem_append, all, feed]
      by_cases nothing : front = []
      · simp [nothing, blank, ret]
      · simp [nothing, blank, ret]
    · have split : withReturns (front ++ [last]) = withReturns front ++ [last] := by
        rw [withReturns_append, withReturns_cons_of_ne feed]
        rfl
      have other : front ++ [last] ≠ ['\n'] := by
        intro same
        have parts : front = [] ∧ [last] = ['\n'] := List.append_inj' same rfl
        exact feed (List.singleton_inj.mp parts.2)
      rw [split, declares_concat, declares_concat, all, ne_eq, withReturns_eq_nil, or_iff_left other]

theorem headAround_withReturns {m' : List Char} :
    HeadAround m' (withReturns s) ↔ ∃ m, m' = withReturns m ∧ HeadAround m s := by
  constructor
  · rintro ⟨before, word, free, second, last, rest, whole, opened, blank, spelled, blank_after⟩
    have some_word : word ≠ [] := by
      rintro rfl
      cases opened
    have some_second : second ≠ [] := by
      rintro rfl
      cases spelled
    have unbroken := Text.unbroken_of_toLower opened plain_opening
    have unbroken_second := Text.unbroken_of_toLower spelled plain_keyword
    simp only [List.append_assoc] at whole
    obtain ⟨a, t, rfl, rfl, after_word⟩ := exists_around_word whole some_word unbroken
    obtain ⟨free, t, rfl, rfl, inside⟩ := exists_around_word after_word (by simp) (by simp)
    obtain ⟨m, t, rfl, rfl, behind⟩ := exists_around_word inside some_second unbroken_second
    obtain ⟨last, rest, rfl, blank_after⟩ :=
      Text.begins_with_blank_iff.mp ⟨_, _, behind, blank_after⟩
    refine ⟨m, rfl, a, word, free, second, last, rest, by simp, opened, ?_, spelled, blank_after⟩
    exact Text.all_blank_withReturns.mp blank
  · rintro ⟨m, rfl, before, word, free, second, last, rest, rfl, opened, blank, spelled, blank_after⟩
    obtain ⟨last', rest', starts, blank_after'⟩ :=
      Text.begins_with_blank_iff.mpr ⟨last, rest, rfl, blank_after⟩
    refine ⟨withReturns before, word, withReturns free, second, last', rest', ?_, opened,
      Text.all_blank_withReturns.mpr blank, spelled, blank_after'⟩
    simp only [withReturns_append, starts, Text.withReturns_word opened plain_opening,
      Text.withReturns_word spelled plain_keyword]
    rfl

theorem isMatch_loop_withReturns :
    loop.isMatch (.ofArray (withReturns s).toArray) = true ↔
      loop.isMatch (.ofArray s.toArray) = true ∨ HeadAround ['\n'] s := by
  simp only [isMatch_loop, headAround_withReturns]
  constructor
  · rintro ⟨_, declares, m, rfl, head⟩
    rcases declares_withReturns.mp declares with declares | rfl
    · exact .inl ⟨m, declares, head⟩
    · exact .inr head
  · rintro (⟨m, declares, head⟩ | head)
    · exact ⟨_, declares_withReturns.mpr (.inl declares), m, rfl, head⟩
    · exact ⟨_, declares_withReturns.mpr (.inr rfl), _, rfl, head⟩

end LoopHead

namespace LineGuard

variable {s : List Char}

/-- The word stands right before a line feed. -/
def AwaitsAtBreak (text : List Char) : Prop :=
  ∃ before word rest, text = before ++ word ++ '\n' :: rest ∧ word.map Char.toLower = await

theorem free_at_lineFeed (rest u : List Char)
    (inside : u <:+: ('\n' :: rest).takeWhile fun c => !isLineBreak c) :
    u.map Char.toLower ≠ function := by
  rw [List.infix_nil.mp inside]
  exact nofun

/-- Where a match ends between the two characters of a line break, the shorter text has one that
ends before the line feed, unless no blank is left to it there. -/
theorem awaitedOutside_withReturns :
    (∃ before word blanks rest, AwaitedOutside (withReturns s) before word blanks rest) ↔
      (∃ before word blanks rest, AwaitedOutside s before word blanks rest) ∨ AwaitsAtBreak s := by
  constructor
  · rintro ⟨before, word, blanks, rest, ⟨whole, same, some_blank, all_blank⟩, free⟩
    have some_word : word ≠ [] := by
      rintro rfl
      cases same
    simp only [List.append_assoc] at whole
    obtain ⟨a, t, rfl, rfl, behind⟩ :=
      exists_around_word whole some_word (Text.unbroken_of_toLower same plain_await)
    rcases Text.cutsInto_of_append behind with ⟨b, r, rfl, rfl, rfl⟩ | ⟨b, r, rfl, rfl, rfl⟩
    · rw [Text.line_withReturns] at free
      exact .inl ⟨a, word, b, r, ⟨by simp, same, mt withReturns_eq_nil.mpr some_blank,
        Text.all_blank_withReturns.mp all_blank⟩, free⟩
    · by_cases nothing : b = []
      · exact .inr ⟨a, word, r, by simp [nothing], same⟩
      · have blank := Text.all_blank_withReturns.mp (List.forall_mem_append.mp all_blank).1
        exact .inl ⟨a, word, b, '\n' :: r, ⟨by simp, same, nothing, blank⟩, free_at_lineFeed r⟩
  · rintro (⟨before, word, blanks, rest, ⟨rfl, same, some_blank, all_blank⟩, free⟩ |
      ⟨before, word, rest, rfl, same⟩)
    · refine ⟨withReturns before, word, withReturns blanks, withReturns rest, ⟨?_, same,
        mt withReturns_eq_nil.mp some_blank, Text.all_blank_withReturns.mpr all_blank⟩, ?_⟩
      · simp only [withReturns_append, Text.withReturns_word same plain_await]
      · rwa [Text.line_withReturns]
    · refine ⟨withReturns before, word, ['\r'], '\n' :: withReturns rest, ⟨?_, same, by simp,
        List.forall_mem_singleton.mpr rfl⟩, free_at_lineFeed _⟩
      rw [withReturns_append, withReturns_append, Text.withReturns_word same plain_await,
        withReturns_cons_lineFeed, List.append_assoc _ ['\r'], List.singleton_append]

theorem isMatch_awaitingRule_withReturns :
    awaitingRule.isMatch (.ofArray (withReturns s).toArray) = true ↔
      awaitingRule.isMatch (.ofArray s.toArray) = true ∨ AwaitsAtBreak s := by
  rw [isMatch_awaitingRule, isMatch_awaitingRule, awaitedOutside_withReturns]

end LineGuard

/-- The text with a carriage return before each line feed. -/
def Text.returned (text : String) : String := String.ofList (withReturns text.toList)

open Text (returned)
open LineGuard (AwaitsAtBreak)
open LoopHead (HeadAround)

namespace Catalog

/-- Apart from two signatures all built-in rules are blind to the difference. -/
theorem builtin_blindToReturns {s : Signature} (mem : s ∈ builtin.signatures)
    (no_loop : s.id ≠ "for-of") (no_await : s.id ≠ "top-level-await") {rule : Rule}
    (hr : rule ∈ s.rules) : ∃ r, rule = .anywhere r ∧ r.blindToReturns = true := by
  obtain ⟨t, ht, texts, he, text, htext, reads⟩ := exists_ruleText ofTables_builtin mem hr
  rcases Signatures.texts_plain ht he htext with plain | guarded
  · obtain ⟨r, read, _, blind⟩ := Signatures.exists_read ht he htext
    rw [plain, RuleText.compile?, Pattern.Reader.standard_read?, read] at reads
    exact ⟨r, (Option.some.inj reads).symm, blind.resolve_right no_loop⟩
  · exact absurd (Signatures.guarded_named t ht _ he (guarded ▸ htext)) no_await

theorem shownBy_returned {s : Signature} (mem : s ∈ builtin.signatures) (text : String) :
    s.shownBy (returned text) = true ↔
      s.shownBy text = true ∨ s.id = "top-level-await" ∧ AwaitsAtBreak text.toList ∨
        s.id = "for-of" ∧ HeadAround ['\n'] text.toList := by
  have known := get?_eq_some_iff.mpr ⟨mem, rfl⟩
  rw [Signature.shownBy, Signature.shownBy, returned, String.toList_ofList]
  by_cases loop : s.id = "for-of"
  · rw [loop, LoopHead.builtin_forOf] at known
    cases known
    simpa [Rule.isMatch] using LoopHead.isMatch_loop_withReturns
  · by_cases await : s.id = "top-level-await"
    · rw [await, LineGuard.builtin_topLevelAwait] at known
      cases known
      simpa [LineGuard.awaitingRule] using LineGuard.isMatch_awaitingRule_withReturns
    · simp only [loop, await, false_and, or_false, List.any_eq_true]
      refine exists_congr fun rule => and_congr_right fun hr => ?_
      obtain ⟨r, rfl, blind⟩ := builtin_blindToReturns mem loop await hr
      exact Bool.eq_iff_iff.mp (Regex.isMatch_withReturns blind)

theorem returned_eq_empty_iff {text : String} : returned text = "" ↔ text = "" := by
  rw [← String.toList_eq_nil_iff, returned, String.toList_ofList, withReturns_eq_nil,
    String.toList_eq_nil_iff]

theorem mem_detect_of_returned {id text : String} {s : Signature} (known : builtin.get? id = some s)
    (shown : s.shownBy (returned text) = true) (nonempty : text ≠ "") (d : Dataset) :
    d.entry id ∈ builtin.detect (returned text) d := by
  obtain ⟨mem, rfl⟩ := get?_eq_some_iff.mp known
  exact mem_detect.mpr ⟨mt returned_eq_empty_iff.mp nonempty, s, mem, shown, rfl⟩

theorem mem_detect_returned {text : String} {d : Dataset} {f : Feature} :
    f ∈ builtin.detect (returned text) d ↔
      f ∈ builtin.detect text d ∨ f = d.entry "top-level-await" ∧ AwaitsAtBreak text.toList ∨
        f = d.entry "for-of" ∧ HeadAround ['\n'] text.toList := by
  constructor
  · intro found
    obtain ⟨nonempty, s, mem, shown, rfl⟩ := mem_detect.mp found
    rcases (shownBy_returned mem text).mp shown with shown | ⟨named, awaits⟩ | ⟨named, head⟩
    · exact .inl (mem_detect.mpr ⟨mt returned_eq_empty_iff.mpr nonempty, s, mem, shown, rfl⟩)
    · exact .inr (.inl ⟨congrArg d.entry named, awaits⟩)
    · exact .inr (.inr ⟨congrArg d.entry named, head⟩)
  · rintro (found | ⟨rfl, awaits⟩ | ⟨rfl, head⟩)
    · obtain ⟨nonempty, s, mem, shown, rfl⟩ := mem_detect.mp found
      refine mem_detect.mpr ⟨mt returned_eq_empty_iff.mp nonempty, s, mem, ?_, rfl⟩
      exact (shownBy_returned mem text).mpr (.inl shown)
    · obtain ⟨mem, _⟩ := get?_eq_some_iff.mp LineGuard.builtin_topLevelAwait
      refine mem_detect_of_returned LineGuard.builtin_topLevelAwait ?_ ?_ d
      · exact (shownBy_returned mem text).mpr (.inr (.inl ⟨rfl, awaits⟩))
      · rintro rfl
        obtain ⟨before, word, rest, nothing, _⟩ := awaits
        simp at nothing
    · obtain ⟨mem, _⟩ := get?_eq_some_iff.mp LoopHead.builtin_forOf
      refine mem_detect_of_returned LoopHead.builtin_forOf ?_ ?_ d
      · exact (shownBy_returned mem text).mpr (.inr (.inr ⟨rfl, head⟩))
      · rintro rfl
        obtain ⟨before, word, free, second, last, rest, nothing, _⟩ := head
        simp at nothing

/-- Two detections report the same list if they report the same features. -/
theorem detect_eq_of_same_members {c : Catalog} {d : Dataset} {text text' : String}
    (same : ∀ f, f ∈ c.detect text d ↔ f ∈ c.detect text' d) :
    c.detect text d = c.detect text' d := by
  refine Feature.eq_of_perm_of_pairwise_precedes ?_ (c.detect_pairwise_precedes text d)
    (c.detect_pairwise_precedes text' d)
  exact (List.perm_ext_iff_of_nodup (.of_map Feature.id (c.detect_nodup text d))
    (.of_map Feature.id (c.detect_nodup text' d))).mpr same

/-- With a carriage return before each line feed a text shows the features that it shows without,
and two more at most: an awaited call if the word stands right before a line feed, and a loop
over values if the parenthesis is followed by a single line feed and the second word. The two
reports are the same if and only if these are shown without carriage returns too. -/
theorem detect_returned (text : String) (d : Dataset) :
    (∀ f, f ∈ builtin.detect (returned text) d ↔
        f ∈ builtin.detect text d ∨ f = d.entry "top-level-await" ∧ AwaitsAtBreak text.toList ∨
          f = d.entry "for-of" ∧ HeadAround ['\n'] text.toList) ∧
      (builtin.detect (returned text) d = builtin.detect text d ↔
        (AwaitsAtBreak text.toList → d.entry "top-level-await" ∈ builtin.detect text d) ∧
          (HeadAround ['\n'] text.toList → d.entry "for-of" ∈ builtin.detect text d)) := by
  refine ⟨fun f => mem_detect_returned, fun same => ?_, fun ⟨awaited, looped⟩ => ?_⟩
  · rw [← same]
    exact ⟨fun awaits => mem_detect_returned.mpr (.inr (.inl ⟨rfl, awaits⟩)),
      fun head => mem_detect_returned.mpr (.inr (.inr ⟨rfl, head⟩))⟩
  · refine detect_eq_of_same_members fun f => mem_detect_returned.trans ⟨?_, .inl⟩
    rintro (found | ⟨rfl, awaits⟩ | ⟨rfl, head⟩)
    · exact found
    · exact awaited awaits
    · exact looped head

/-- A text is reported differently if a signature matches it with carriage returns only. -/
theorem detect_ne_of_shown {id text : String} {s : Signature} (known : builtin.get? id = some s)
    (nonempty : text ≠ "") (more : s.shownBy (returned text) = true)
    (less : s.shownBy text = false) (d : Dataset) :
    builtin.detect (returned text) d ≠ builtin.detect text d := by
  intro same
  have found := mem_detect_of_returned known more nonempty d
  rw [same] at found
  obtain ⟨_, other, mem, shown, named⟩ := mem_detect.mp found
  have again := get?_eq_some_iff.mpr ⟨mem, congrArg Feature.id named⟩
  cases known.symm.trans again
  cases less.symm.trans shown

/-- The guarded rule, and the one for loops, match two lines with the longer line end only. -/
theorem line_ends_change_reports :
    '\r' ∉ "await\nfunction".toList ∧
      returned "await\nfunction" = "await\r\nfunction" ∧
      (∀ d, builtin.detect "await\r\nfunction" d ≠ builtin.detect "await\nfunction" d) ∧
      '\r' ∉ "for(\nof x".toList ∧
      returned "for(\nof x" = "for(\r\nof x" ∧
      ∀ d, builtin.detect "for(\r\nof x" d ≠ builtin.detect "for(\nof x" d := by
  have awaits : returned "await\nfunction" = "await\r\nfunction" := by decide
  have loops : returned "for(\nof x" = "for(\r\nof x" := by decide
  refine ⟨by decide, awaits, ?_, by decide, loops, ?_⟩
  · rw [← awaits]
    exact detect_ne_of_shown LineGuard.builtin_topLevelAwait (by decide) (by decide +kernel)
      (by decide +kernel)
  · rw [← loops]
    exact detect_ne_of_shown LoopHead.builtin_forOf (by decide) (by decide +kernel)
      (by decide +kernel)

end Catalog
end FeatureScan
