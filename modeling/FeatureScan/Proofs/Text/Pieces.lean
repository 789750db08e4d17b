import FeatureScan.Text.Pieces

/-!
Splitting at marks undoes joining with them, and trimming stops at a character that is not blank.
A text occurs in another one as a part of it.
-/

namespace FeatureScan
namespace Text

/-- The characters of a literal, which is a list of them to the unifier and to the kernel. -/
theorem toList_literal (cs : List Char) : (no_index (String.ofList cs)).toList = cs :=
  String.toList_ofList

theorem occursIn_iff {needle hay : List Char} : occursIn needle hay = true ↔ needle <:+: hay := by
  induction hay with
  | nil => rw [occursIn, List.isEmpty_iff, List.infix_nil]
  | cons c rest ih =>
      rw [occursIn, Bool.or_eq_true, List.isPrefixOf_iff_prefix, ih, List.infix_cons_iff]

variable {isMark : Char → Bool} {piece rest : List Char} {mark : Char}

theorem pieces_of_unmarked (unmarked : ∀ c ∈ piece, isMark c = false) :
    pieces isMark piece = [piece] := by
  induction piece with
  | nil => rfl
  | cons c piece ih =>
      obtain ⟨first, others⟩ := List.forall_mem_cons.mp unmarked
      simp [pieces, ih others, first]

theorem pieces_ne_nil (s : List Char) : pieces isMark s ≠ [] := by
  induction s with
  | nil => simp [pieces]
  | cons c rest ih =>
      cases split : pieces isMark rest with
      | nil => exact absurd split ih
      | cons piece others =>
          simp only [pieces, split]
          split <;> simp

theorem pieces_cons_mark (marked : isMark mark = true) (rest : List Char) :
    pieces isMark (mark :: rest) = [] :: pieces isMark rest := by
  cases split : pieces isMark rest with
  | nil => exact absurd split (pieces_ne_nil rest)
  | cons piece others => simp [pieces, split, marked]

/-- The first piece ends at the first mark. -/
theorem pieces_append_mark (unmarked : ∀ c ∈ piece, isMark c = false) (marked : isMark mark = true)
    (rest : List Char) : pieces isMark (piece ++ mark :: rest) = piece :: pieces isMark rest := by
  induction piece with
  | nil => exact pieces_cons_mark marked rest
  | cons c piece ih =>
      obtain ⟨first, others⟩ := List.forall_mem_cons.mp unmarked
      simp [pieces, ih others, first]

theorem pieces_eq_splitOn (mark : Char) (s : List Char) : pieces (· == mark) s = s.splitOn mark := by
  induction s with
  | nil => rfl
  | cons c rest ih =>
      rw [List.splitOn, List.splitOnP_cons_eq_if_modifyHead, ← List.splitOn, ← ih]
      cases split : pieces (· == mark) rest with
      | nil => exact absurd split (pieces_ne_nil rest)
      | cons piece others => simp [pieces, split]

theorem unmarked_of_mem_pieces {s : List Char} (mem : piece ∈ pieces isMark s) :
    ∀ c ∈ piece, isMark c = false := by
  induction s generalizing piece with
  | nil =>
      rw [pieces, List.mem_singleton] at mem
      subst mem
      exact nofun
  | cons c rest ih =>
      cases split : pieces isMark rest with
      | nil => exact absurd split (pieces_ne_nil rest)
      | cons first others =>
          rw [split] at ih
          simp only [pieces, split] at mem
          split at mem
          next =>
            obtain rfl | mem := List.mem_cons.mp mem
            · exact nofun
            · exact ih mem
          next plain =>
            obtain rfl | mem := List.mem_cons.mp mem
            · exact List.forall_mem_cons.mpr ⟨Bool.eq_false_iff.mpr plain, ih List.mem_cons_self⟩
            · exact ih (List.mem_cons_of_mem _ mem)

theorem toList_trim (s : String) :
    (trim s).toList = dropLastBlanks (s.toList.dropWhile isBlank) := String.toList_ofList

theorem isBlank_of_allBlank {s : String} (blank : allBlank s = true) :
    ∀ c ∈ s.toList, isBlank c = true := List.all_eq_true.mp blank

theorem dropWhile_isBlank_append {c : Char} (solid : isBlank c = false) (s rest : List Char) :
    (s ++ c :: rest).dropWhile isBlank = s.dropWhile isBlank ++ c :: rest := by
  induction s with
  | nil => simp [solid]
  | cons d s ih => cases h : isBlank d <;> simp [h, ih]

theorem dropLastBlanks_append {c : Char} (solid : isBlank c = false) (s rest : List Char) :
    dropLastBlanks (s ++ c :: rest) = s ++ c :: dropLastBlanks rest := by
  simp [dropLastBlanks, dropWhile_isBlank_append solid]

theorem dropLastBlanks_append_solid {word : List Char} (some_char : word ≠ [])
    (solid : ∀ c ∈ word, isBlank c = false) (s rest : List Char) :
    dropLastBlanks (s ++ (word ++ rest)) = s ++ (word ++ dropLastBlanks rest) := by
  obtain ⟨front, last, rfl⟩ := (List.eq_nil_or_concat word).resolve_left some_char
  have solid_last : isBlank last = false := solid last (by simp)
  simpa using dropLastBlanks_append solid_last (s ++ front) rest

theorem dropLastBlanks_of_blank {s : List Char} (blank : ∀ c ∈ s, isBlank c = true) :
    dropLastBlanks s = [] := by
  have all : ∀ c ∈ s.reverse, isBlank c = true := fun c hc => blank c (List.mem_reverse.mp hc)
  rw [dropLastBlanks, ← List.append_nil s.reverse, List.dropWhile_append_of_pos all]
  rfl

end Text
end FeatureScan
