import FeatureScan.Identifier
import FeatureScan.Report.Lines
import FeatureScan.Proofs.BookmarkChanges
import FeatureScan.Proofs.InstantText
import FeatureScan.Proofs.Text.Lines

/-!
The lists of recorded analyses and of bookmarks, an entry a line. Whatever the snippet is like,
its preview is brought onto one line, and no other part of a line of the program's own making
holds a line break. The name of a bookmark is the user's and is not brought onto one line, so
its line breaks are those of the line.
-/

namespace FeatureScan
namespace Text

/-- The characters that may end a line on a screen or in an editor. -/
def breaksLine (c : Char) : Bool := isLineBreak c || c == '\u0085'

/-- The line breaks of a text, in their order. -/
def breaks (s : String) : List Char := s.toList.filter breaksLine

theorem breaks_append (s t : String) : breaks (s ++ t) = breaks s ++ breaks t := by
  rw [breaks, String.toList_append, List.filter_append, breaks, breaks]

theorem breaks_eq_nil_iff {s : String} :
    breaks s = [] ↔ ∀ c, breaksLine c = true → c ∉ s.toList := by
  rw [breaks, List.filter_eq_nil_iff]
  exact ⟨fun h c ends mem => h c mem ends, fun h c mem ends => h c ends mem⟩

theorem breaksLine_iff {c : Char} :
    breaksLine c = true ↔
      c = '\n' ∨ c = '\r' ∨ c = '\u2028' ∨ c = '\u2029' ∨ c = '\u0085' := by
  simp only [breaksLine, isLineBreak, Bool.or_eq_true, beq_iff_eq, or_assoc]

theorem isBlank_of_breaksLine {c : Char} (ends : breaksLine c = true) : isBlank c = true := by
  rcases breaksLine_iff.mp ends with rfl | rfl | rfl | rfl | rfl
  all_goals rfl

theorem not_isDigit_of_breaksLine {c : Char} (ends : breaksLine c = true) : c.isDigit = false := by
  rcases breaksLine_iff.mp ends with rfl | rfl | rfl | rfl | rfl
  all_goals rfl

theorem ne_of_breaksLine {c d : Char} (ends : breaksLine c = true) (other : breaksLine d = false) :
    c ≠ d := by
  rintro rfl
  rw [ends] at other
  cases other

theorem breaks_singleLine (s : String) : breaks (singleLine s) = [] := by
  refine breaks_eq_nil_iff.mpr fun c ends => ?_
  rw [singleLine, String.toList_ofList]
  refine not_mem_flatten_intersperse ?_ fun word listed mem => ?_
  · exact fun mem => ne_of_breaksLine ends rfl (List.mem_singleton.mp mem)
  · have solid := unmarked_of_mem_pieces (List.mem_filter.mp listed).1 c mem
    rw [isBlank_of_breaksLine ends] at solid
    cases solid

theorem breaks_toString (n : Nat) : breaks (toString n) = [] := by
  refine breaks_eq_nil_iff.mpr fun c ends mem => ?_
  rw [Nat.toString_eq_ofList_toDigits, String.toList_ofList] at mem
  have digit := isDigit_of_mem_toDigits c mem
  rw [not_isDigit_of_breaksLine ends] at digit
  cases digit

theorem breaks_replicate (n : Nat) : breaks (String.ofList (List.replicate n ' ')) = [] := by
  refine breaks_eq_nil_iff.mpr fun c ends mem => ?_
  rw [String.toList_ofList] at mem
  exact ne_of_breaksLine ends rfl (List.eq_of_mem_replicate mem)

end Text

open Text (breaks breaksLine breaks_append breaks_eq_nil_iff)

namespace Identifier

theorem digitChar_plain : ∀ k < 16, breaksLine (Nat.digitChar k) = false := by decide

theorem not_mem_byteText {c : Char} (ends : breaksLine c = true) (b : Nat) : c ∉ byteText b := by
  have other := fun k (small : k < 16) => Text.ne_of_breaksLine ends (digitChar_plain k small)
  simp only [byteText, List.mem_cons, List.not_mem_nil, or_false, not_or]
  exact ⟨other _ (Nat.mod_lt _ (by decide)), other _ (Nat.mod_lt _ (by decide))⟩

theorem breaks_ofBytes (bytes : List Nat) : breaks (ofBytes bytes) = [] := by
  refine breaks_eq_nil_iff.mpr fun c ends => ?_
  rw [ofBytes, String.toList_ofList]
  refine Text.not_mem_flatten_intersperse ?_ fun word listed mem => ?_
  · exact fun mem => Text.ne_of_breaksLine ends rfl (List.mem_singleton.mp mem)
  · obtain ⟨group, _, rfl⟩ := List.mem_map.mp listed
    obtain ⟨b, _, inside⟩ := List.mem_flatMap.mp mem
    exact not_mem_byteText ends b inside

end Identifier

theorem Instant.breaks_toMinuteText (t : Instant) : breaks t.toMinuteText = [] := by
  refine breaks_eq_nil_iff.mpr fun c ends => ?_
  have digit := Text.not_isDigit_of_breaksLine ends
  have other := fun d => Text.ne_of_breaksLine (d := d) ends
  simp [toMinuteText, not_mem_padded digit, other ' ' rfl, other ':' rfl,
    not_mem_dateText digit (other '-' rfl) (other '+' rfl)]

theorem Language.breaks_name (l : Language) : breaks l.name = [] := by
  cases l <;> decide

namespace Report

theorem breaks_padLeft (width : Nat) (s : String) : breaks (padLeft width s) = breaks s := by
  rw [padLeft, breaks_append, Text.breaks_replicate, List.nil_append]

theorem breaks_padRight (width : Nat) (s : String) : breaks (padRight width s) = breaks s := by
  rw [padRight, breaks_append, Text.breaks_replicate, List.append_nil]

theorem breaks_historyLine (h : HistoryItem) : breaks (historyLine h) = breaks h.id := by
  have gap : breaks "  " = [] := rfl
  have space : breaks " " = [] := rfl
  have title : breaks " features  " = [] := rfl
  simp only [historyLine, breaks_append, gap, space, title, Instant.breaks_toMinuteText,
    breaks_padRight, Language.breaks_name, breaks_padLeft, Text.breaks_toString,
    Text.breaks_singleLine, List.append_nil]

theorem breaks_bookmarkLine (b : Bookmark) :
    breaks (bookmarkLine b) = breaks b.id ++ breaks b.name := by
  have gap : breaks "  " = [] := rfl
  have opening : breaks "  (" = [] := rfl
  have title : breaks " features)  " = [] := rfl
  have dash : breaks "-" = [] := rfl
  rw [bookmarkLine]
  cases b.results with
  | some _ | none =>
      simp only [breaks_append, gap, opening, title, dash, Instant.breaks_toMinuteText,
        Text.breaks_toString, Text.breaks_singleLine, List.append_nil]

end Report

namespace App

variable {σ : Type} {app : App (StateM σ)} {id name code : String} {time : Instant} {st : σ}

theorem eq_of_record {results : Analysis} {item : HistoryItem}
    (recorded : ((app.record id time code results).run st).1 = some item) :
    item = .new id time code results := by
  rw [record, StateT.run_bind] at recorded
  generalize (History.record app.store (.new id time code results)).run.run st = answer at recorded
  obtain ⟨answer, after⟩ := answer
  cases answer with
  | ok _ => exact (Option.some.inj recorded).symm
  | error _ => cases recorded

theorem eq_of_addBookmark {b : Bookmark}
    (added : (ends (app.addBookmark id time name code) st).1 = .ok b) :
    ∃ results, b = .new id time name code results := by
  rw [addBookmark] at added
  split at added
  next => cases added
  next results _ =>
    refine ⟨some results, ?_⟩
    rw [ends_bind] at added
    generalize ends _ st = answer at added
    obtain ⟨answer, after⟩ := answer
    cases answer with
    | ok _ => exact (Except.ok.inj added).symm
    | error _ => cases added

/-- An item has a line without a line break, whatever the snippet is. So has a bookmark, but for
the line breaks of its name, which stand in the line as they are. -/
theorem lines_break_in_names_only (app : App (StateM σ)) (bytes : List Nat) (time : Instant)
    (name code : String) (st : σ) :
    (∀ results item, ((app.record (Identifier.ofBytes bytes) time code results).run st).1 = some item →
        breaks (Report.historyLine item) = []) ∧
      ∀ b, (ends (app.addBookmark (Identifier.ofBytes bytes) time name code) st).1 = .ok b →
        breaks (Report.bookmarkLine b) = breaks name := by
  refine ⟨fun results item recorded => ?_, fun b added => ?_⟩
  · rw [eq_of_record recorded, Report.breaks_historyLine]
    exact Identifier.breaks_ofBytes bytes
  · obtain ⟨results, rfl⟩ := eq_of_addBookmark added
    rw [Report.breaks_bookmarkLine]
    exact congrArg (· ++ breaks name) (Identifier.breaks_ofBytes bytes)

section

variable {s : Store (StateM σ)} {Holds : σ → Dictionary String → Prop} (map : s.GetsAndSets Holds)
  {d : Dictionary String} (holds : Holds st d) (dataset : Dataset)
include map holds

theorem record_of_holds (results : Analysis) :
    (((⟨dataset, s⟩ : App _).record id time code results).run st).1 =
      some (.new id time code results) := by
  obtain ⟨after, answer, _⟩ :=
    History.yields_record map trivial (.new id time code results) d st holds
  have ended : (History.record s (.new id time code results)).run.run st = (_, after) := answer
  rw [record, StateT.run_bind, ended]
  rfl

theorem addBookmark_of_holds (some_code : Text.allBlank code = false) :
    (ends ((⟨dataset, s⟩ : App _).addBookmark id time name code) st).1 =
      .ok (.new id time name code (some (Catalog.builtin.analyze code dataset))) := by
  obtain ⟨after, answer, _⟩ := addBookmark_of_code map dataset some_code id time name st holds
  rw [answer]

end

/-- A line feed in the name of a bookmark ends its line in the list. -/
theorem broken_name_breaks_line :
    let app : App (StateM (Dictionary String)) := ⟨.builtin, .memory⟩
    let id := Identifier.ofBytes (List.replicate 16 0)
    ∃ b, (ends (app.addBookmark id ⟨0, 0⟩ "a\nb" "gap: 1px") .empty).1 = .ok b ∧
      '\n' ∈ (Report.bookmarkLine b).toList := by
  intro app id
  have kept : ∀ b : Bookmark, b.name = "a\nb" → '\n' ∈ (Report.bookmarkLine b).toList := by
    intro b named
    have mem : '\n' ∈ breaks (Report.bookmarkLine b) := by
      rw [Report.breaks_bookmarkLine, named]
      exact List.mem_append_right _ (by decide)
    exact (List.mem_filter.mp mem).1
  have map := Store.memory_implements.getsAndSets
  exact ⟨_, addBookmark_of_holds map rfl .builtin (by decide), kept _ rfl⟩

/-- An item of a snippet on two lines, and a bookmark of it with two line breaks in its name. -/
theorem lines_of_broken_texts :
    let app : App (StateM (Dictionary String)) := ⟨.builtin, .memory⟩
    let id := Identifier.ofBytes (List.replicate 16 0)
    let code := "gap:\r\n\u20281px"
    let found := Catalog.builtin.analyze code .builtin
    let item := HistoryItem.new id ⟨0, 0⟩ code found
    let b := Bookmark.new id ⟨0, 0⟩ "a\u0085b\u2029" code (some found)
    ((app.record id ⟨0, 0⟩ code found).run .empty).1 = some item ∧
      breaks (Report.historyLine item) = [] ∧
      (ends (app.addBookmark id ⟨0, 0⟩ "a\u0085b\u2029" code) .empty).1 = .ok b ∧
      breaks (Report.bookmarkLine b) = breaks "a\u0085b\u2029" := by
  intro app id code found item b
  have map := Store.memory_implements.getsAndSets
  have recorded : ((app.record id ⟨0, 0⟩ code found).run .empty).1 = some item :=
    record_of_holds map rfl .builtin found
  have added : (ends (app.addBookmark id ⟨0, 0⟩ "a\u0085b\u2029" code) .empty).1 = .ok b :=
    addBookmark_of_holds map rfl .builtin (by decide)
  obtain ⟨items, bookmarks⟩ := lines_break_in_names_only app (List.replicate 16 0) ⟨0, 0⟩
    "a\u0085b\u2029" code .empty
  exact ⟨recorded, items found item recorded, added, bookmarks b added⟩

end App
end FeatureScan
