import FeatureScan.Pattern.Search
import FeatureScan.Proofs.Pattern.Families
import Mathlib.Data.List.Forall2

/-!
Words in any case, and runs of the characters of a set. A word is found where each of its
characters has a relative, so a word of plain characters is found where the text is the same in
small letters.
-/

namespace FeatureScan
namespace Pattern

theorem contains_caseless_single {c d : Char} :
    (CharSet.caseless (.single c)).contains d = true ↔ c ∈ caseFamily d := by
  rw [CharSet.contains, List.any_eq_true]
  constructor
  · rintro ⟨e, mem, inside⟩
    simp only [CharSet.single, CharSet.contains, Bool.and_eq_true, decide_eq_true_eq] at inside
    have same : e = c := Char.toNat_inj.mp (by omega)
    rwa [← same]
  · exact fun mem => ⟨c, mem, by simp [CharSet.single, CharSet.contains]⟩

/-- The characters are those of the word, each in any case. -/
def InAnyCase (w u : List Char) : Prop := List.Forall₂ (fun c d => c ∈ caseFamily d) w u

theorem inAnyCase_iff_map_toLower {w u : List Char} (plain : PlainWord w) :
    InAnyCase w u ↔ u.map Char.toLower = w.map Char.toLower := by
  induction w generalizing u with
  | nil => simp [InAnyCase]
  | cons c w ih =>
      obtain ⟨first, others⟩ := List.forall_mem_cons.mp plain
      cases u with
      | nil => simp [InAnyCase]
      | cons d u =>
          rw [List.map_cons, List.map_cons, List.cons.injEq, ← ih others,
            ← mem_caseFamily_iff_toLower first]
          exact List.forall₂_cons

theorem inAnyCase_iff_toLower {w u : List Char} (plain : ∀ c ∈ w, PlainLetter c) :
    InAnyCase w u ↔ u.map Char.toLower = w := by
  have small : w.map Char.toLower = w :=
    (List.map_congr_left fun c mem => toLower_of_plain (plain c mem)).trans (List.map_id w)
  have characters : PlainWord w := fun c mem =>
    .inl ((toLower_of_plain (plain c mem)).symm ▸ plain c mem)
  rw [inAnyCase_iff_map_toLower characters, small]

namespace Regex

def letter (c : Char) : Regex := .chars (.caseless (.single c))

/-- Whether the input begins with the characters of a word in any case. -/
def spells : List Char → List Char → Bool
  | [], _ => true
  | c :: w, d :: input => (CharSet.caseless (.single c)).contains d && spells w input
  | _ :: _, [] => false

theorem seqAll_cons (r : Regex) {rest : List Regex} (more : rest ≠ []) :
    seqAll (r :: rest) = .seq r (seqAll rest) := by
  cases rest with
  | nil => exact absurd rfl more
  | cons => rfl

theorem ends_letter_seq (c : Char) (r : Regex) (text : Array Char) (i : Nat) :
    (Regex.seq (letter c) r).ends text i =
      if text[i]?.any (CharSet.caseless (.single c)).contains then r.ends text (i + 1) else [] := by
  rw [ends, letter, ends]
  cases text[i]?.any (CharSet.caseless (.single c)).contains <;> rfl

theorem drop_toList (text : Array Char) (i : Nat) :
    text[i]? = none ∧ text.toList.drop i = [] ∨
      ∃ c, text[i]? = some c ∧ text.toList.drop i = c :: text.toList.drop (i + 1) := by
  by_cases bound : i < text.size
  · refine Or.inr ⟨text[i], Array.getElem?_eq_getElem bound, ?_⟩
    rw [List.drop_eq_getElem_cons (by simpa using bound), Array.getElem_toList]
  · exact Or.inl ⟨Array.getElem?_eq_none (by omega), List.drop_eq_nil_of_le (by simpa using bound)⟩

theorem spells_cons (c : Char) (w : List Char) (text : Array Char) (i : Nat) :
    spells (c :: w) (text.toList.drop i) =
      (text[i]?.any (CharSet.caseless (.single c)).contains &&
        spells w (text.toList.drop (i + 1))) := by
  rcases drop_toList text i with ⟨none, done⟩ | ⟨d, here, rest⟩
  · rw [done, none, spells]
    rfl
  · rw [rest, here, spells, Option.any_some]

theorem ends_letters (w : List Char) (tail : Regex) (text : Array Char) (i : Nat) :
    (seqAll (w.map letter ++ [tail])).ends text i =
      if spells w (text.toList.drop i) then tail.ends text (i + w.length) else [] := by
  induction w generalizing i with
  | nil => rfl
  | cons c w ih =>
      rw [List.map_cons, List.cons_append, seqAll_cons _ (by simp), ends_letter_seq, ih, spells_cons]
      have length : i + 1 + w.length = i + (c :: w).length := by
        rw [List.length_cons]
        omega
      rw [length]
      cases text[i]?.any (CharSet.caseless (.single c)).contains <;> rfl

theorem ends_word (w : List Char) (text : Array Char) (i : Nat) :
    (word w).ends text i = if spells w (text.toList.drop i) then [i + w.length] else [] := by
  induction w generalizing i with
  | nil => rfl
  | cons c w ih =>
      have length : i + 1 + w.length = i + (c :: w).length := by
        rw [List.length_cons]
        omega
      rw [spells_cons, ← length]
      cases w with
      | nil =>
          change (letter c).ends text i = _
          rw [letter, ends]
          cases text[i]?.any (CharSet.caseless (.single c)).contains <;> rfl
      | cons d w =>
          change (Regex.seq (letter c) (word (d :: w))).ends text i = _
          rw [ends_letter_seq, ih]
          cases text[i]?.any (CharSet.caseless (.single c)).contains <;> rfl

theorem spells_iff_inAnyCase (w input : List Char) :
    spells w input = true ↔ ∃ u rest, input = u ++ rest ∧ InAnyCase w u := by
  induction w generalizing input with
  | nil =>
      refine ⟨fun _ => ⟨[], input, rfl, .nil⟩, fun _ => ?_⟩
      cases input <;> rfl
  | cons c w ih =>
      cases input with
      | nil =>
          refine ⟨fun h => (nomatch h), fun ⟨u, rest, nothing, same⟩ => ?_⟩
          rw [(List.append_eq_nil_iff.mp nothing.symm).1] at same
          cases same
      | cons d input =>
          rw [spells, Bool.and_eq_true, contains_caseless_single, ih]
          constructor
          · rintro ⟨first, u, rest, rfl, same⟩
            exact ⟨d :: u, rest, rfl, .cons first same⟩
          · rintro ⟨u, rest, split, same⟩
            cases same with
            | cons first same =>
                cases split
                exact ⟨first, _, rest, rfl, same⟩

/-- A word of plain letters is spelled by what has it in small letters. -/
theorem spells_iff {w : List Char} (plain : ∀ c ∈ w, PlainLetter c) (input : List Char) :
    spells w input = true ↔ ∃ u rest, input = u ++ rest ∧ u.map Char.toLower = w := by
  simp only [spells_iff_inAnyCase, inAnyCase_iff_toLower plain]

theorem getElem?_of_spells {w : List Char} (plain : ∀ c ∈ w, PlainLetter c) {text : List Char}
    {i : Nat} (h : spells w (text.drop i) = true) {d : Nat} (within : d < w.length) :
    text[i + d]?.map Char.toLower = w[d]? := by
  obtain ⟨u, rest, here, rfl⟩ := (spells_iff plain _).mp h
  rw [List.length_map] at within
  rw [← List.getElem?_drop, here, List.getElem?_append_left within, List.getElem?_map]

def runLength (set : CharSet) (text : Array Char) (i : Nat) : Nat :=
  ((text.toList.drop i).takeWhile set.contains).length

theorem runLength_eq (set : CharSet) (text : Array Char) (i : Nat) :
    runLength set text i =
      if text[i]?.any set.contains then runLength set text (i + 1) + 1 else 0 := by
  unfold runLength
  rcases drop_toList text i with ⟨none, done⟩ | ⟨d, here, rest⟩
  · rw [done, none]
    rfl
  · rw [rest, here, Option.any_some, List.takeWhile_cons]
    split <;> rfl

theorem runLength_le (set : CharSet) (text : Array Char) (i : Nat) :
    runLength set text i ≤ text.size - i := by
  have le := (List.takeWhile_sublist (l := text.toList.drop i) set.contains).length_le
  rwa [List.length_drop, Array.length_toList] at le

theorem any_getElem?_run {set : CharSet} {text : Array Char} {i k : Nat} (low : i ≤ k)
    (within : k < i + runLength set text i) : text.toList[k]?.any set.contains = true := by
  obtain ⟨n, rfl⟩ := Nat.exists_eq_add_of_le low
  have inside : n < ((text.toList.drop i).takeWhile set.contains).length := by
    unfold runLength at within
    omega
  obtain ⟨tail, whole⟩ := List.takeWhile_prefix (l := text.toList.drop i) set.contains
  rw [← List.getElem?_drop, ← whole, List.getElem?_append_left inside,
    List.getElem?_eq_getElem inside, Option.any_some]
  exact List.all_eq_true.mp List.all_takeWhile _ (List.getElem_mem inside)

/-- The walk goes to the end of the run and has all positions on the way as ends. -/
theorem visit_run {set : CharSet} {text : Array Char} {start fuel x : Nat} {w : Walk}
    (after : start < x) (fresh : ∀ y ∈ w.seen, y < x) (enough : runLength set text x < fuel) :
    (Walk.visit ((Regex.chars set).ends text) true start fuel w x).ends =
      List.range' x (runLength set text x + 1) ++ w.ends := by
  induction fuel generalizing x w with
  | zero => omega
  | succ fuel ih =>
      have unseen : w.seen.contains x = false := by
        simp only [List.contains_eq_mem, decide_eq_false_iff_not]
        exact fun mem => Nat.lt_irrefl x (fresh x mem)
      have moved : ¬ x = start := by omega
      rw [Walk.visit, unseen]
      simp only [Bool.false_eq_true, if_false, moved, if_true]
      rw [runLength_eq] at enough ⊢
      split at enough
      next inside =>
        have step : (Regex.chars set).ends text x = [x + 1] := if_pos inside
        have seen : ∀ y ∈ x :: w.seen, y < x + 1 := by
          intro y hy
          rcases List.mem_cons.mp hy with rfl | hy
          · exact Nat.lt_succ_self y
          · exact Nat.lt_succ_of_lt (fresh y hy)
        rw [step, List.foldl_cons, List.foldl_nil, ih (by omega) seen (by omega), if_pos inside]
        rfl
      next outside =>
        have step : (Regex.chars set).ends text x = [] := if_neg outside
        rw [step, if_neg outside]
        rfl

/-- A greedy run ends after any of its characters, at its own end first. -/
theorem ends_plus_chars (set : CharSet) (text : Array Char) (i : Nat) :
    (Regex.plus true (.chars set)).ends text i =
      (List.range' (i + 1) (runLength set text i)).reverse := by
  have bound := runLength_le set text i
  rw [ends]
  rw [runLength_eq] at bound ⊢
  split at bound
  next inside =>
    have step : (Regex.chars set).ends text i = [i + 1] := if_pos inside
    have walk : (Walk.visit ((Regex.chars set).ends text) true i (text.size + 2 - i) ⟨[], []⟩
        (i + 1)).ends = List.range' (i + 1) (runLength set text (i + 1) + 1) ++ [] :=
      visit_run (by omega) (fun _ h => nomatch h) (by omega)
    rw [step, List.foldl_cons, List.foldl_nil, walk, if_pos inside, List.append_nil]
  next outside =>
    have step : (Regex.chars set).ends text i = [] := if_neg outside
    rw [step, if_neg outside]
    rfl

end Regex

end Pattern
end FeatureScan
