import FeatureScan.Proofs.LineGuard
import FeatureScan.Proofs.Pattern.Words

/-!
The guard of a line in terms of the word that it rejects. A search for the word looks at the
text up to the end of the line only, so it finds what stands between a match and that end.
-/

namespace FeatureScan
namespace LineGuard

open Pattern (Regex InAnyCase)
open Pattern.Regex (spells word)

theorem toList_upTo (text : Array Char) (i : Nat) : (upTo text i).toList = text.toList.take i := by
  rw [upTo, Array.toList_extract, List.extract_eq_take_drop]
  rfl

theorem drop_take_lineEnd {text : Array Char} {e : Nat} (bound : e ≤ text.size) :
    (text.toList.take (lineEnd text e)).drop e = restOfLine text.toList e := by
  rw [lineEnd_eq bound, List.drop_take, Nat.add_sub_cancel_left]
  exact (List.prefix_iff_eq_take.mp (List.takeWhile_prefix _)).symm

/-- The word occurs in the line, in any case. -/
def Mentions (w line : List Char) : Prop := ∃ u, u <:+: line ∧ InAnyCase w u

theorem startsAt_word_iff (w : List Char) (text : Array Char) (i : Nat) :
    (word w).StartsAt text i ↔ ∃ u rest, text.toList.drop i = u ++ rest ∧ InAnyCase w u := by
  rw [← Pattern.Regex.spells_iff_inAnyCase, Regex.StartsAt, Regex.matchAt, Pattern.Regex.ends_word]
  cases spells w (text.toList.drop i) <;> simp

theorem clear_word_iff_not_mentions (w : List Char) {text : Array Char} {e : Nat}
    (bound : e ≤ text.size) :
    Clear (word w) text e ↔ ¬ Mentions w (restOfLine text.toList e) := by
  have high := (lineEnd_bounds bound).1
  rw [← drop_take_lineEnd bound]
  unfold Clear
  simp only [startsAt_word_iff, toList_upTo]
  constructor
  · rintro clear ⟨u, ⟨before, after, whole⟩, same⟩
    have length := congrArg List.length whole
    simp only [List.length_append, List.length_drop, List.length_take] at length
    refine clear (e + before.length) (by omega) (by omega) ⟨u, after, ?_, same⟩
    rw [← List.drop_drop, ← whole, List.append_assoc, List.drop_left]
  · rintro free k low _ ⟨u, rest, here, same⟩
    obtain ⟨n, rfl⟩ := Nat.exists_eq_add_of_le low
    refine free ⟨u, ⟨((text.toList.take (lineEnd text e)).drop e).take n, rest, ?_⟩, same⟩
    rw [List.append_assoc, ← here, ← List.drop_drop, List.take_append_drop]

/-- What is remembered of a line never changes the answer of a guarded rule. The rule matches if
one of the matches of its pattern can end at a line break or is not followed by the rejected
word on the rest of its own line. -/
theorem guarded_iff_some_match_free (pattern : Regex) (rejected text : String) :
    (Rule.guarded pattern (word rejected.toList)).isMatch (.ofArray text.toList.toArray) = true ↔
      ∃ m ∈ pattern.findAll text.toList.toArray,
        canEndAtBreak pattern text.toList.toArray m = true ∨
          ¬ Mentions rejected.toList (restOfLine text.toList m.2) := by
  rw [isMatch_guarded_iff]
  refine exists_congr fun m => and_congr_right fun found => or_congr_right ?_
  obtain ⟨bound, here⟩ := Regex.mem_findAll found
  exact clear_word_iff_not_mentions rejected.toList ((Regex.matches_of_matchAt here).le_size bound)

end LineGuard
end FeatureScan
