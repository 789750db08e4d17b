import FeatureScan.Proofs.BuiltinTables
import FeatureScan.Proofs.Pattern.Stretches

/-!
The built-in rule for loops over values. It looks for the two words of the head of such a loop,
and between them for a parenthesis and two or more characters of words and blanks, the last one a
blank. A carriage return with a line feed counts as two characters, a line feed as one.
-/

namespace FeatureScan
namespace LoopHead

open Pattern (CharSet Regex PlainLetter InAnyCase)
open Pattern.Regex (letter many seqAll Spans)
open Text (isBlank)

def opening : List Char := ['f', 'o', 'r']

def keyword : List Char := ['o', 'f']

theorem plain_opening : ∀ c ∈ opening, PlainLetter c := Pattern.plain_of_all (by decide)

theorem plain_keyword : ∀ c ∈ keyword, PlainLetter c := Pattern.plain_of_all (by decide)

def wordOrBlank : CharSet := .union .asciiWord .blank

/-- White space, if any. -/
def blanks : Regex := many true (.chars .blank)

/-- What a loop declares: words and white space in any order. -/
def name : Regex := .plus true (.alt (.chars .asciiWord) (.chars .blank))

def gap : Regex := .plus true (.chars .blank)

def loop : Regex :=
  seqAll (opening.map letter ++
    (blanks :: letter '(' :: blanks :: name :: gap :: (keyword.map letter ++ [gap])))

theorem builtin_forOf :
    Catalog.builtin.get? "for-of" = some ⟨"for-of", .js, [.anywhere loop]⟩ := by
  rw [Catalog.get?_builtin]
  decide +kernel

/-- What may stand between the parenthesis and the second word: two or more characters of words
and blanks, the last one a blank. -/
def Declares (middle : List Char) : Prop :=
  ∃ front last, middle = front ++ [last] ∧ front ≠ [] ∧
    (∀ c ∈ front, wordOrBlank.contains c = true) ∧ isBlank last = true

/-- The text has the two words in any case, blanks and a parenthesis behind the first one, and a
blank behind the second one. The middle stands between the parenthesis and the second word. -/
def HeadAround (middle text : List Char) : Prop :=
  ∃ before word free second last rest,
    text = before ++ word ++ free ++ ['('] ++ middle ++ second ++ last :: rest ∧
      word.map Char.toLower = opening ∧ (∀ c ∈ free, isBlank c = true) ∧
      second.map Char.toLower = keyword ∧ isBlank last = true

section

variable {v : List Char}

theorem spans_blanks : blanks.Spans v ↔ ∀ c ∈ v, isBlank c = true :=
  Regex.spans_many (rfl : Regex.many? (.plus true (.chars .blank)) .empty = some .blank)

theorem spans_name : name.Spans v ↔ v ≠ [] ∧ ∀ c ∈ v, wordOrBlank.contains c = true :=
  Regex.spans_plus rfl

theorem spans_gap : gap.Spans v ↔ v ≠ [] ∧ ∀ c ∈ v, isBlank c = true :=
  Regex.spans_plus (rfl : (Regex.chars .blank).single? = some .blank)

theorem spans_parenthesis : (letter '(').Spans v ↔ v = ['('] := by
  rw [Regex.spans_single (rfl : (letter '(').single? = some _)]
  simp only [Pattern.contains_caseless_single,
    Pattern.mem_caseFamily_iff_of_low (c := '(') (by decide) (by decide), exists_eq_right]

theorem contains_of_blank {c : Char} (blank : isBlank c = true) : wordOrBlank.contains c = true :=
  Bool.or_eq_true_iff.mpr (.inr blank)

theorem declares_iff : Declares v ↔
    ∃ a b c, v = a ++ (b ++ c) ∧ blanks.Spans a ∧ name.Spans b ∧ gap.Spans c := by
  simp only [spans_blanks, spans_name, spans_gap]
  constructor
  · rintro ⟨front, last, rfl, some_char, all, blank⟩
    exact ⟨[], front, [last], rfl, nofun, ⟨some_char, all⟩, by simp, by simpa using blank⟩
  · rintro ⟨a, b, c, rfl, before, ⟨some_char, all⟩, some_blank, behind⟩
    obtain rfl | ⟨c, last, rfl⟩ := List.eq_nil_or_concat' c
    · exact absurd rfl some_blank
    · refine ⟨a ++ (b ++ c), last, by simp, by simp [some_char], ?_, behind last (by simp)⟩
      intro d mem
      rcases List.mem_append.mp mem with mem | mem
      · exact contains_of_blank (before d mem)
      · rcases List.mem_append.mp mem with mem | mem
        · exact all d mem
        · exact contains_of_blank (behind d (List.mem_append_left _ mem))

theorem spans_middle {row : List Regex} (free : ∀ r ∈ row, r.anchorFree = true) :
    (seqAll (blanks :: name :: gap :: row)).Spans v ↔
      ∃ middle t, v = middle ++ t ∧ Declares middle ∧ (seqAll row).Spans t := by
  have behind_name : ∀ r ∈ gap :: row, r.anchorFree = true := List.forall_mem_cons.mpr ⟨rfl, free⟩
  have behind : ∀ r ∈ name :: gap :: row, r.anchorFree = true :=
    List.forall_mem_cons.mpr ⟨rfl, behind_name⟩
  simp only [declares_iff, Regex.spans_seqAll_cons (r := blanks) rfl behind,
    Regex.spans_seqAll_cons (r := name) rfl behind_name, Regex.spans_seqAll_cons (r := gap) rfl free]
  constructor
  · rintro ⟨a, _, rfl, ha, b, _, rfl, hb, c, t, rfl, hc, ht⟩
    exact ⟨a ++ (b ++ c), t, by simp, ⟨a, b, c, rfl, ha, hb, hc⟩, ht⟩
  · rintro ⟨_, t, rfl, ⟨a, b, c, rfl, ha, hb, hc⟩, ht⟩
    exact ⟨a, b ++ (c ++ t), by simp, ha, b, c ++ t, rfl, hb, c, t, rfl, hc, ht⟩

theorem spans_loop : loop.Spans v ↔
    ∃ word free middle second tail,
      v = word ++ (free ++ (['('] ++ (middle ++ (second ++ tail)))) ∧
        word.map Char.toLower = opening ∧ (∀ c ∈ free, isBlank c = true) ∧ Declares middle ∧
        second.map Char.toLower = keyword ∧ gap.Spans tail := by
  constructor
  · intro here
    obtain ⟨word, t, rfl, opened, here⟩ := (Regex.spans_letters opening (by decide)).mp here
    obtain ⟨free, t, rfl, blank, here⟩ := (Regex.spans_seqAll_cons rfl (by decide)).mp here
    obtain ⟨_, t, rfl, parenthesis, here⟩ := (Regex.spans_seqAll_cons rfl (by decide)).mp here
    obtain ⟨middle, t, rfl, declares, here⟩ := (spans_middle (by decide)).mp here
    obtain ⟨second, tail, rfl, spelled, rest⟩ := (Regex.spans_letters keyword (by decide)).mp here
    rw [spans_parenthesis.mp parenthesis]
    exact ⟨word, free, middle, second, tail, rfl,
      (Pattern.inAnyCase_iff_toLower plain_opening).mp opened, spans_blanks.mp blank, declares,
      (Pattern.inAnyCase_iff_toLower plain_keyword).mp spelled, rest⟩
  · rintro ⟨word, free, middle, second, tail, rfl, opened, blank, declares, spelled, rest⟩
    have behind : (seqAll (keyword.map letter ++ [gap])).Spans (second ++ tail) :=
      (Regex.spans_letters keyword (by decide)).mpr
        ⟨second, tail, rfl, (Pattern.inAnyCase_iff_toLower plain_keyword).mpr spelled, rest⟩
    have declared := (spans_middle (by decide)).mpr ⟨middle, _, rfl, declares, behind⟩
    have called := (Regex.spans_seqAll_cons rfl (by decide)).mpr
      ⟨_, _, rfl, spans_parenthesis.mpr rfl, declared⟩
    have after_word := (Regex.spans_seqAll_cons rfl (by decide)).mpr
      ⟨free, _, rfl, spans_blanks.mpr blank, called⟩
    exact (Regex.spans_letters opening (by decide)).mpr
      ⟨word, _, rfl, (Pattern.inAnyCase_iff_toLower plain_opening).mpr opened, after_word⟩

end

/-- The rule matches where a head has a middle of the kind that it asks for. -/
theorem isMatch_loop {text : List Char} :
    loop.isMatch (.ofArray text.toArray) = true ↔
      ∃ middle, Declares middle ∧ HeadAround middle text := by
  rw [Regex.isMatch_iff_exists_spans (by decide)]
  simp only [spans_loop]
  constructor
  · rintro ⟨before, _, after, rfl, word, free, middle, second, tail, rfl, opened, blank, declares,
      spelled, spaced⟩
    obtain ⟨some_blank, blank_after⟩ := spans_gap.mp spaced
    obtain ⟨last, rest, rfl⟩ := List.exists_cons_of_ne_nil some_blank
    refine ⟨middle, declares, before, word, free, second, last, rest ++ after, ?_, opened, blank,
      spelled, blank_after last List.mem_cons_self⟩
    simp
  · rintro ⟨middle, declares, before, word, free, second, last, rest, rfl, opened, blank, spelled,
      blank_after⟩
    refine ⟨before, _, rest, ?_, word, free, middle, second, [last], rfl, opened, blank, declares,
      spelled, spans_gap.mpr ⟨by simp, by simpa using blank_after⟩⟩
    simp

end LoopHead
end FeatureScan
