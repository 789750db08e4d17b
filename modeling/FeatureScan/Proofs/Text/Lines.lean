import FeatureScan.Text.CaseMap
import FeatureScan.Proofs.Text.Digits
import FeatureScan.Proofs.Text.Pieces

/-!
Lines of texts. A text that was written line by line has the lines that were written, as long
as none of them holds a line feed. Taking a text apart and writing it large brings none in.
-/

namespace FeatureScan
namespace Text

/-- The lines of a text. The last one is what follows the last line feed. -/
def lines (s : String) : List String := (pieces (· == '\n') s.toList).map String.ofList

/-- The text holds no line feed. -/
def OneLine (s : String) : Prop := '\n' ∉ s.toList

instance (s : String) : Decidable (OneLine s) := inferInstanceAs (Decidable (¬ _))

@[simp] theorem oneLine_append {s t : String} : OneLine (s ++ t) ↔ OneLine s ∧ OneLine t := by
  simp [OneLine]

/-- A literal is taken for its list of characters as well. -/
@[simp] theorem oneLine_ofList {s : List Char} : OneLine (no_index (String.ofList s)) ↔ '\n' ∉ s := by
  simp [OneLine]

theorem not_mem_of_isDigit {s : List Char} (digits : ∀ c ∈ s, c.isDigit = true) : '\n' ∉ s :=
  fun mem => absurd (digits '\n' mem) (by decide)

@[simp] theorem oneLine_repr (n : Nat) : OneLine n.repr := by
  rw [← Nat.toString_eq_repr, Nat.toString_eq_ofList_toDigits, oneLine_ofList]
  exact not_mem_of_isDigit isDigit_of_mem_toDigits

theorem lines_cons {line : String} (plain : OneLine line) (rest : String) :
    lines (line ++ "\n" ++ rest) = line :: lines rest := by
  have unmarked : ∀ c ∈ line.toList, (c == '\n') = false := by
    intro c mem
    exact beq_eq_false_iff_ne.mpr fun same => plain (same ▸ mem)
  have parted : (line ++ "\n" ++ rest).toList = line.toList ++ '\n' :: rest.toList := by simp
  rw [lines, parted, pieces_append_mark unmarked rfl, List.map_cons, String.ofList_toList, lines]

/-- After the last line feed comes a line without characters. -/
theorem lines_join {written : List String} (plain : ∀ line ∈ written, OneLine line) :
    lines (String.join (written.map (· ++ "\n"))) = written ++ [""] := by
  induction written with
  | nil => rfl
  | cons line rest ih =>
      obtain ⟨first, others⟩ := List.forall_mem_cons.mp plain
      rw [List.map_cons, String.join_cons, lines_cons first, ih others, List.cons_append]

theorem sublist_flatten_pieces (isMark : Char → Bool) (s : List Char) :
    (pieces isMark s).flatten.Sublist s := by
  induction s with
  | nil => exact List.Sublist.slnil
  | cons c rest ih =>
      cases split : pieces isMark rest with
      | nil => exact absurd split (pieces_ne_nil rest)
      | cons piece others =>
          rw [split] at ih
          simp only [pieces, split]
          split
          next => exact ih.cons c
          next => exact ih.cons_cons c

theorem not_mem_flatten_intersperse {c : Char} {mark : List Char} (plain : c ∉ mark)
    {words : List (List Char)} (each : ∀ word ∈ words, c ∉ word) :
    c ∉ (words.intersperse mark).flatten := by
  induction words with
  | nil => exact List.not_mem_nil
  | cons word rest ih =>
      obtain ⟨here, others⟩ := List.forall_mem_cons.mp each
      cases rest with
      | nil => simpa using here
      | cons next rest => simpa [here, plain] using ih others

end Text
end FeatureScan
