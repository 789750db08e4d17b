import FeatureScan.Proofs.LoopHeads
import FeatureScan.Proofs.SpecialFeatures

/-!
The built-in rules for drawing contexts. Each one looks for a call with the name of a context
between quotes, and they differ in the names that they list. The rule for `canvas` lists all the
names of the others except `experimental-webgl`.
-/

namespace FeatureScan
namespace Catalog

/-- A feature with one plain rule is found where the pattern is found. -/
theorem mem_detectedIds_of_plain {c : Catalog} {id : String} {category : Category}
    {p : Pattern.Regex} (known : c.get? id = some ⟨id, category, [.anywhere p]⟩) {text : String}
    {d : Dataset} :
    id ∈ c.detectedIds text d ↔ text ≠ "" ∧ p.isMatch (.ofArray text.toList.toArray) = true := by
  simp [mem_detectedIds, known, Signature.shownBy, Rule.isMatch]

end Catalog

namespace DrawingContext

open Pattern (CharSet Regex InAnyCase PlainWord)
open Pattern.Regex (letter seqAll altAll word Spans)
open LoopHead (blanks)
open Text (isBlank)

def method : String := "getContext"

/-- Either kind of quote. -/
def quote : Regex := .chars (.caseless (.union (.union .empty (.single '\'')) (.single '"')))

/-- A call up to the quote before the name, with what follows there. -/
def call (row : List Regex) : Regex :=
  seqAll (method.toList.map letter ++ (blanks :: letter '(' :: blanks :: quote :: row))

/-- One of the names, and a quote. -/
def oneOf (names : List String) : List Regex := [altAll (names.map (word ·.toList)), quote]

def canvasNames : List String := ["2d", "webgl", "webgl2"]

def webglNames : List String := ["webgl", "experimental-webgl"]

theorem builtin_canvas :
    Catalog.builtin.get? "canvas" =
      some ⟨"canvas", .js, [.anywhere (call (oneOf canvasNames))]⟩ := by
  rw [Catalog.get?_builtin]
  decide +kernel

theorem builtin_webgl :
    Catalog.builtin.get? "webgl" = some ⟨"webgl", .js, [.anywhere (call (oneOf webglNames))]⟩ := by
  rw [Catalog.get?_builtin]
  decide +kernel

theorem builtin_webgl2 :
    Catalog.builtin.get? "webgl2" =
      some ⟨"webgl2", .js, [.anywhere (call ("webgl2".toList.map letter ++ [quote]))]⟩ := by
  rw [Catalog.get?_builtin]
  decide +kernel

def IsQuote (c : Char) : Prop := c = '\'' ∨ c = '"'

/-- The text has the word `getContext` in any case and a parenthesis behind it, and the characters
stand there between two quotes, which may differ. White space may stand before and behind the
parenthesis. -/
def CallsWith (asked text : List Char) : Prop :=
  ∃ before called free gap opened closed after,
    text = before ++ called ++ free ++ ['('] ++ gap ++ [opened] ++ asked ++ closed :: after ∧
      called.map Char.toLower = method.toList.map Char.toLower ∧
      (∀ c ∈ free ++ gap, isBlank c = true) ∧ IsQuote opened ∧ IsQuote closed

/-- The text has a call that names the context, in any case. -/
def Requests (name text : String) : Prop :=
  ∃ asked, CallsWith asked text.toList ∧ asked.map Char.toLower = name.toList

section

variable {v : List Char}

theorem spans_quote : quote.Spans v ↔ ∃ c, v = [c] ∧ IsQuote c := by
  rw [Regex.spans_single (rfl : quote.single? = some _)]
  refine exists_congr fun d => and_congr_right fun _ => ?_
  have first := Pattern.contains_caseless_single (c := '\'') (d := d)
  have second := Pattern.contains_caseless_single (c := '"') (d := d)
  rw [Pattern.mem_caseFamily_iff_of_low (by decide) (by decide)] at first second
  rw [IsQuote, ← first, ← second]
  simp only [CharSet.contains, List.any_eq_true, Bool.or_eq_true, Bool.false_eq_true, false_or,
    and_or_left, exists_or]

/-- The name and the quote behind it, for one of the names of a list. -/
def SpansName (row : List Regex) (names : List String) : Prop :=
  ∀ t, (seqAll row).Spans t ↔
    ∃ asked closed, t = asked ++ [closed] ∧ (∃ n ∈ names, InAnyCase n.toList asked) ∧ IsQuote closed

theorem spans_closing {P : List Char → Prop} :
    (∃ u w, v = u ++ w ∧ P u ∧ (seqAll [quote]).Spans w) ↔
      ∃ asked closed, v = asked ++ [closed] ∧ P asked ∧ IsQuote closed := by
  simp only [seqAll, spans_quote]
  constructor
  · rintro ⟨asked, _, rfl, named, closed, rfl, quoted⟩
    exact ⟨asked, closed, rfl, named, quoted⟩
  · rintro ⟨asked, closed, rfl, named, quoted⟩
    exact ⟨asked, [closed], rfl, named, closed, rfl, quoted⟩

theorem spansName_oneOf {names : List String}
    (free : (altAll (names.map (word ·.toList))).anchorFree = true) :
    SpansName (oneOf names) names := by
  have words : ∀ u, (altAll (names.map (word ·.toList))).Spans u ↔
      ∃ n ∈ names, InAnyCase n.toList u := fun u => by
    simp [Regex.spans_altAll, Regex.spans_word]
  intro t
  rw [oneOf, Regex.spans_seqAll_cons free (by decide), spans_closing]
  simp only [words]

theorem spansName_letters (name : String) :
    SpansName (name.toList.map letter ++ [quote]) [name] := by
  intro t
  rw [Regex.spans_letters name.toList (by decide), spans_closing]
  simp

theorem plain_method : PlainWord method.toList := by decide

section

variable {row : List Regex} (free : ∀ r ∈ row, r.anchorFree = true)
include free

theorem anchorFree_behind :
    ∀ r ∈ blanks :: letter '(' :: blanks :: quote :: row, r.anchorFree = true := by
  simpa using ⟨by decide, by decide, by decide, by decide, free⟩

theorem anchorFree_call : (call row).anchorFree = true := by
  refine Regex.anchorFree_seqAll fun r mem => ?_
  rcases List.mem_append.mp mem with letters | mem
  · obtain ⟨c, _, rfl⟩ := List.mem_map.mp letters
    rfl
  · exact anchorFree_behind free r mem

theorem spans_call :
    (call row).Spans v ↔
      ∃ called before gap opened t,
        v = called ++ (before ++ (['('] ++ (gap ++ ([opened] ++ t)))) ∧
          InAnyCase method.toList called ∧ (∀ c ∈ before, isBlank c = true) ∧
          (∀ c ∈ gap, isBlank c = true) ∧ IsQuote opened ∧ (seqAll row).Spans t := by
  have whole := anchorFree_behind free
  obtain ⟨_, opening⟩ := List.forall_mem_cons.mp whole
  obtain ⟨_, spaced⟩ := List.forall_mem_cons.mp opening
  obtain ⟨_, quoted⟩ := List.forall_mem_cons.mp spaced
  rw [call, Regex.spans_letters method.toList whole]
  simp only [Regex.spans_seqAll_cons (r := blanks) rfl opening,
    Regex.spans_seqAll_cons (r := letter '(') rfl spaced,
    Regex.spans_seqAll_cons (r := blanks) rfl quoted, Regex.spans_seqAll_cons (r := quote) rfl free,
    LoopHead.spans_blanks, LoopHead.spans_parenthesis, spans_quote]
  constructor
  · rintro ⟨called, _, rfl, named, before, _, rfl, blank, _, _, rfl, rfl, gap, _, rfl, blank', _, t,
      rfl, ⟨opened, rfl, quote⟩, rest⟩
    exact ⟨called, before, gap, opened, t, rfl, named, blank, blank', quote, rest⟩
  · rintro ⟨called, before, gap, opened, t, rfl, named, blank, blank', quote, rest⟩
    exact ⟨called, _, rfl, named, before, _, rfl, blank, _, _, rfl, rfl, gap, _, rfl, blank', _, t,
      rfl, ⟨opened, rfl, quote⟩, rest⟩

theorem isMatch_call {names : List String} (spansName : SpansName row names) {text : List Char} :
    (call row).isMatch (.ofArray text.toArray) = true ↔
      ∃ asked, CallsWith asked text ∧ ∃ n ∈ names, InAnyCase n.toList asked := by
  rw [Regex.isMatch_iff_exists_spans (anchorFree_call free)]
  simp only [spans_call free]
  constructor
  · rintro ⟨before, _, after, rfl, called, space, gap, opened, t, rfl, named, blank, blank', quote,
      rest⟩
    obtain ⟨asked, closed, rfl, listed, quote'⟩ := (spansName t).mp rest
    refine ⟨asked, ⟨before, called, space, gap, opened, closed, after, by simp, ?_, ?_, quote,
      quote'⟩, listed⟩
    · exact (Pattern.inAnyCase_iff_map_toLower plain_method).mp named
    · exact List.forall_mem_append.mpr ⟨blank, blank'⟩
  · rintro ⟨asked, ⟨before, called, space, gap, opened, closed, after, rfl, named, blank, quote,
      quote'⟩, listed⟩
    obtain ⟨first, second⟩ := List.forall_mem_append.mp blank
    refine ⟨before, _, after, ?_, called, space, gap, opened, asked ++ [closed], rfl, ?_, first,
      second, quote, (spansName _).mpr ⟨asked, closed, rfl, listed, quote'⟩⟩
    · simp
    · exact (Pattern.inAnyCase_iff_map_toLower plain_method).mpr named

end

end

/-- A name of small letters other than `k` and `s`, digits and signs. -/
def PlainName (name : String) : Prop :=
  name.toList.map Char.toLower = name.toList ∧ PlainWord name.toList

instance (name : String) : Decidable (PlainName name) := inferInstanceAs (Decidable (_ ∧ _))

/-- A feature whose rule lists the names is found where a call has one of them. -/
theorem mem_detectedIds_iff_requests {id : String} {row : List Regex} {names : List String}
    (known : Catalog.builtin.get? id = some ⟨id, .js, [.anywhere (call row)]⟩)
    (free : ∀ r ∈ row, r.anchorFree = true) (spansName : SpansName row names)
    (plain : ∀ n ∈ names, PlainName n) (text : String) (d : Dataset) :
    id ∈ Catalog.builtin.detectedIds text d ↔ ∃ n ∈ names, Requests n text := by
  rw [Catalog.mem_detectedIds_of_plain known, isMatch_call free spansName]
  constructor
  · rintro ⟨_, asked, calls, n, listed, named⟩
    obtain ⟨small, all⟩ := plain n listed
    have same := (Pattern.inAnyCase_iff_map_toLower all).mp named
    exact ⟨n, listed, asked, calls, same.trans small⟩
  · rintro ⟨n, listed, asked, calls, named⟩
    obtain ⟨small, all⟩ := plain n listed
    have same := (Pattern.inAnyCase_iff_map_toLower all).mpr (named.trans small.symm)
    refine ⟨?_, asked, calls, n, listed, same⟩
    rintro rfl
    obtain ⟨before, called, space, gap, opened, closed, after, nothing, _⟩ := calls
    simp at nothing

theorem mem_detectedIds_canvas (text : String) (d : Dataset) :
    "canvas" ∈ Catalog.builtin.detectedIds text d ↔
      Requests "2d" text ∨ Requests "webgl" text ∨ Requests "webgl2" text := by
  rw [mem_detectedIds_iff_requests builtin_canvas (by decide) (spansName_oneOf (by decide))
    (by decide)]
  simp [canvasNames]

theorem mem_detectedIds_webgl (text : String) (d : Dataset) :
    "webgl" ∈ Catalog.builtin.detectedIds text d ↔
      Requests "webgl" text ∨ Requests "experimental-webgl" text := by
  rw [mem_detectedIds_iff_requests builtin_webgl (by decide) (spansName_oneOf (by decide))
    (by decide)]
  simp [webglNames]

theorem mem_detectedIds_webgl2 (text : String) (d : Dataset) :
    "webgl2" ∈ Catalog.builtin.detectedIds text d ↔ Requests "webgl2" text := by
  rw [mem_detectedIds_iff_requests builtin_webgl2 (by decide) (spansName_letters "webgl2")
    (by decide)]
  simp

end DrawingContext

namespace Catalog

open DrawingContext (Requests)

/-- The built-in catalog finds a context in the texts that request it. Each rule has its own list
of names, and `canvas` does without the older name of `webgl`: the texts with `webgl` or `webgl2`
and no `canvas` are those where this name stands alone. -/
theorem drawing_context_detected (text : String) (d : Dataset) :
    ("canvas" ∈ builtin.detectedIds text d ↔
        Requests "2d" text ∨ Requests "webgl" text ∨ Requests "webgl2" text) ∧
      ("webgl" ∈ builtin.detectedIds text d ↔
        Requests "webgl" text ∨ Requests "experimental-webgl" text) ∧
      ("webgl2" ∈ builtin.detectedIds text d ↔ Requests "webgl2" text) ∧
      (("webgl" ∈ builtin.detectedIds text d ∨ "webgl2" ∈ builtin.detectedIds text d) ∧
          "canvas" ∉ builtin.detectedIds text d ↔
        Requests "experimental-webgl" text ∧
          ¬ (Requests "2d" text ∨ Requests "webgl" text ∨ Requests "webgl2" text)) := by
  have canvas := DrawingContext.mem_detectedIds_canvas text d
  have webgl := DrawingContext.mem_detectedIds_webgl text d
  have webgl2 := DrawingContext.mem_detectedIds_webgl2 text d
  refine ⟨canvas, webgl, webgl2, ?_⟩
  rw [canvas, webgl, webgl2]
  constructor
  · rintro ⟨(named | older) | named, missed⟩
    · exact absurd (.inr (.inl named)) missed
    · exact ⟨older, missed⟩
    · exact absurd (.inr (.inr named)) missed
  · rintro ⟨older, missed⟩
    exact ⟨.inl (.inr older), missed⟩

/-- A call with the older name shows `webgl` and no `canvas`. -/
theorem webgl_without_canvas :
    "webgl" ∈ builtin.detectedIds "getContext('experimental-webgl')" .empty ∧
      "canvas" ∉ builtin.detectedIds "getContext('experimental-webgl')" .empty := by
  rw [mem_detectedIds_of_plain DrawingContext.builtin_webgl,
    mem_detectedIds_of_plain DrawingContext.builtin_canvas]
  decide +kernel

end Catalog
end FeatureScan
