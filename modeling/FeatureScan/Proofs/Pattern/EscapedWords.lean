import FeatureScan.Pattern.Reader
import FeatureScan.Proofs.Outcome

/-!
Escaped words are read back: the reader of this library takes every character of an escaped word
for itself, in any case.
-/

namespace FeatureScan
namespace Pattern
namespace Reader

/-- An escaped word, if it is read at all, matches where the word stands, in any case. -/
def ReadsWords (reader : Reader) : Prop :=
  ∀ (w : String) (r : Regex), reader.read (reader.escape w) = .ok r →
    ∀ text i j, Regex.Matches text r i j ↔ Regex.Matches text (.word w.toList) i j

/-- One character as the reader notes it down. -/
def literalPart (c : Char) : Part := .expr (.chars (.caseless (.single c))) 0

theorem readGroup_escapeChar (fuel : Nat) (names : List (List Char)) (parts : List Part) (c : Char)
    (rest : List Char) :
    readGroup (fuel + 1) names ⟨.caseInsensitive, [], parts⟩ (escapeChar c ++ rest) =
      readGroup fuel names ⟨.caseInsensitive, [], literalPart c :: parts⟩ rest := by
  rw [escapeChar]
  split
  next special =>
    simp only [metaChars, List.mem_cons, List.not_mem_nil, or_false] at special
    rcases special with rfl | rfl | rfl | rfl | rfl | rfl | rfl | rfl | rfl | rfl | rfl | rfl | rfl |
      rfl | rfl | rfl | rfl | rfl
    all_goals rfl
  next plain =>
    rw [List.singleton_append, readGroup]
    have skipped : Mode.caseInsensitive.skip (c :: rest) = c :: rest := rfl
    dsimp only
    rw [skipped]
    split
    all_goals
      rename_i same
      cases same
    case h_14 => rfl
    -- The other cases are those of characters that are escaped.
    all_goals exact absurd (by decide) plain

theorem length_escapeChar_pos (c : Char) : 0 < (escapeChar c).length := by
  rw [escapeChar]
  split <;> exact Nat.succ_pos _

theorem readGroup_escaped (names : List (List Char)) (word : List Char) {fuel : Nat}
    (enough : (word.flatMap escapeChar).length < fuel) (parts : List Part) :
    readGroup fuel names ⟨.caseInsensitive, [], parts⟩ (word.flatMap escapeChar) =
      some (Branches.close ⟨.caseInsensitive, [], (word.map literalPart).reverse ++ parts⟩, names,
        []) := by
  induction word generalizing fuel parts with
  | nil =>
      cases fuel with
      | zero => exact absurd enough (Nat.not_lt_zero _)
      | succ fuel => rfl
  | cons c rest ih =>
      rw [List.flatMap_cons, List.length_append] at enough
      have some_char := length_escapeChar_pos c
      cases fuel with
      | zero => exact absurd enough (Nat.not_lt_zero _)
      | succ fuel =>
          rw [List.flatMap_cons, readGroup_escapeChar, ih (by omega), List.map_cons,
            List.reverse_cons, List.append_assoc, List.singleton_append]

theorem combine_seqAll (items : List (Regex × Nat)) :
    (combine .seqAll items).1 = .seqAll (items.map Prod.fst) := by
  match items with
  | [] | [_] | _ :: _ :: _ => rfl

theorem close_literalParts (word : List Char) :
    (Branches.close ⟨.caseInsensitive, [], (word.map literalPart).reverse⟩).1 = .word word := by
  change (combine .seqAll ((word.map literalPart).reverse.reverse.filterMap Part.expr?)).1 = _
  rw [combine_seqAll, List.reverse_reverse, List.filterMap_map, List.map_filterMap, Regex.word]
  exact congrArg Regex.seqAll (congrFun List.filterMap_eq_map word)

theorem readChars?_escaped {word : List Char} {r : Regex}
    (read : Regex.readChars? (word.flatMap escapeChar) = some r) : r = .word word := by
  have group := readGroup_escaped [] word (Nat.lt_succ_self _) []
  rw [List.append_nil] at group
  rw [Regex.readChars?, Branches.start, group] at read
  dsimp only at read
  split at read
  · rw [← close_literalParts]
    exact (Option.some.inj read).symm
  · cases read

theorem eq_word_of_read {w : String} {r : Regex}
    (read : standard.read (standard.escape w) = .ok r) : r = .word w.toList := by
  have found := toOption_eq_some.mpr read
  rw [← read?, standard_read?, Regex.read?, standard, String.toList_ofList] at found
  exact readChars?_escaped found

theorem readsWords_standard : standard.ReadsWords := by
  intro w r read text i j
  rw [eq_word_of_read read]

end Reader
end Pattern
end FeatureScan
