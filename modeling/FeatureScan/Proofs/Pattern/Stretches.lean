import FeatureScan.Proofs.Pattern.Reach
import FeatureScan.Proofs.Pattern.Runs
import FeatureScan.Proofs.Pattern.Words
import Mathlib.Data.List.Infix

/-!
Expressions without anchors. Such an expression matches a stretch of a text where it matches the
same characters with nothing around them, so that what it finds is told by lists of characters
alone. The lists of a sequence are put together from those of its members.
-/

namespace FeatureScan
namespace Pattern
namespace Regex

/-- Whether the expression has no anchor. -/
def anchorFree (r : Regex) : Bool := r.all (fun _ => true) fun _ => false

theorem anchorFree_seqAll {row : List Regex} (free : ∀ r ∈ row, r.anchorFree = true) :
    (seqAll row).anchorFree = true := by
  induction row with
  | nil => rfl
  | cons r rest ih =>
      obtain ⟨first, others⟩ := List.forall_mem_cons.mp free
      cases rest with
      | nil => exact first
      | cons s rest => exact Bool.and_eq_true_iff.mpr ⟨first, ih others⟩

/-- The expression matches the list of characters from its beginning to its end. -/
def Spans (r : Regex) (v : List Char) : Prop := Matches v.toArray r 0 v.length

/-- Characters that stand at other positions stand so from any position on. -/
theorem same_from {text text' : Array Char} {i i' j k : Nat}
    (same : ∀ n, i + n < k → text'[i' + n]? = text[i + n]?) (low : i ≤ j) :
    ∀ n, j + n < k → text'[i' + (j - i) + n]? = text[j + n]? := by
  intro n inside
  have there := same (j - i + n) (by omega)
  rwa [← Nat.add_assoc, ← Nat.add_assoc, Nat.add_sub_cancel' low] at there

/-- A match stays one where the same characters stand at other positions. -/
theorem Matches.moved {text text' : Array Char} {r : Regex} {i j : Nat} (free : r.anchorFree = true)
    (here : Matches text r i j) {i' : Nat} (same : ∀ n, i + n < j → text'[i' + n]? = text[i + n]?) :
    Matches text' r i' (i' + (j - i)) := by
  induction here generalizing i' with
  | empty i =>
      rw [Nat.sub_self]
      exact .empty i'
  | @chars set c i at_i mem =>
      rw [Nat.add_sub_cancel_left]
      exact .chars ((same 0 (Nat.lt_succ_self i)).trans at_i) mem
  | look => cases free
  | @seq r s i j k first second ih ih' =>
      obtain ⟨left, right⟩ := Bool.and_eq_true_iff.mp free
      have low := first.le
      have high := second.le
      have total : i' + (j - i) + (k - j) = i' + (k - i) := by omega
      have front := ih left fun n inside => same n (by omega)
      exact .seq front (total ▸ ih' right (same_from same low))
  | altFirst _ ih => exact .altFirst (ih (Bool.and_eq_true_iff.mp free).1 same)
  | altSecond _ ih => exact .altSecond (ih (Bool.and_eq_true_iff.mp free).2 same)
  | once _ ih => exact .once (ih free same)
  | @again greedy r i j k body more ih ih' =>
      have low := body.le
      have high := more.le
      have total : i' + (j - i) + (k - j) = i' + (k - i) := by omega
      have front := ih free fun n inside => same n (by omega)
      exact .again front (total ▸ ih' free (same_from same low))

variable {r s : Regex} {v : List Char} {set : CharSet}

theorem getElem?_stretch (before v after : List Char) {k : Nat} (inside : k < v.length) :
    (before ++ v ++ after)[before.length + k]? = v[k]? := by
  rw [List.append_assoc, List.getElem?_append_right (Nat.le_add_right _ _),
    Nat.add_sub_cancel_left, List.getElem?_append_left inside]

theorem matches_stretch_iff (free : r.anchorFree = true) (before v after : List Char) :
    Matches (before ++ v ++ after).toArray r before.length (before.length + v.length) ↔
      r.Spans v := by
  have same : ∀ k, k < v.length →
      (before ++ v ++ after).toArray[before.length + k]? = v.toArray[k]? := fun k inside => by
    rw [List.getElem?_toArray, List.getElem?_toArray, getElem?_stretch before v after inside]
  constructor
  · intro here
    have moved : Matches v.toArray r 0 (0 + (before.length + v.length - before.length)) :=
      here.moved free fun k inside => by
        rw [Nat.zero_add, same k (Nat.lt_of_add_lt_add_left inside)]
    rwa [Nat.add_sub_cancel_left, Nat.zero_add] at moved
  · intro here
    refine Matches.moved free here fun k inside => ?_
    rw [Nat.zero_add] at inside ⊢
    exact same k inside

/-- What is found is a stretch that the expression spans. -/
theorem isMatch_iff_exists_spans (free : r.anchorFree = true) (text : List Char) :
    r.isMatch (.ofArray text.toArray) = true ↔
      ∃ before v after, text = before ++ v ++ after ∧ r.Spans v := by
  rw [isMatch_iff]
  constructor
  · rintro ⟨i, j, bound, here⟩
    have low := here.le
    have high := here.le_size bound
    rw [List.size_toArray] at bound high
    have whole : text.take i ++ (text.take j).drop i ++ text.drop j = text := by
      have front := List.take_append_drop i (text.take j)
      rw [List.take_take, Nat.min_eq_left low] at front
      rw [front, List.take_append_drop]
    have first : (text.take i).length = i := List.length_take_of_le bound
    have second : i + ((text.take j).drop i).length = j := by
      rw [List.length_drop, List.length_take_of_le high, Nat.add_sub_cancel' low]
    have stretch := matches_stretch_iff free (text.take i) ((text.take j).drop i) (text.drop j)
    rw [whole, first, second] at stretch
    exact ⟨_, _, _, whole.symm, stretch.mp here⟩
  · rintro ⟨before, v, after, rfl, here⟩
    refine ⟨_, _, ?_, (matches_stretch_iff free before v after).mpr here⟩
    rw [List.size_toArray, List.append_assoc, List.length_append]
    exact Nat.le_add_right _ _

theorem spans_seq (left : r.anchorFree = true) (right : s.anchorFree = true) :
    (Regex.seq r s).Spans v ↔ ∃ u w, v = u ++ w ∧ r.Spans u ∧ s.Spans w := by
  have first : ∀ u w : List Char,
      Matches (u ++ w).toArray r 0 u.length ↔ r.Spans u := fun u w => by
    simpa using matches_stretch_iff left [] u w
  have second : ∀ u w : List Char,
      Matches (u ++ w).toArray s u.length (u ++ w).length ↔ s.Spans w := fun u w => by
    simpa using matches_stretch_iff right u w []
  constructor
  · intro here
    cases here with
    | @seq _ _ _ j _ front back =>
        have bound : j ≤ v.length := back.le
        have length : (v.take j).length = j := List.length_take_of_le bound
        refine ⟨v.take j, v.drop j, (List.take_append_drop j v).symm, ?_, ?_⟩
        · rw [← first _ (v.drop j), List.take_append_drop, length]
          exact front
        · rw [← second (v.take j), List.take_append_drop, length]
          exact back
  · rintro ⟨u, w, rfl, front, back⟩
    exact .seq ((first u w).mpr front) ((second u w).mpr back)

theorem spans_empty : Regex.empty.Spans v ↔ v = [] := by
  constructor
  · intro here
    generalize size : v.length = n at *
    unfold Spans at here
    rw [size] at here
    cases here
    exact List.length_eq_zero_iff.mp size
  · rintro rfl
    exact .empty 0

theorem spans_seqAll_cons {row : List Regex} (first : r.anchorFree = true)
    (others : ∀ s ∈ row, s.anchorFree = true) :
    (seqAll (r :: row)).Spans v ↔ ∃ u w, v = u ++ w ∧ r.Spans u ∧ (seqAll row).Spans w := by
  cases row with
  | nil =>
      change r.Spans v ↔ ∃ u w, v = u ++ w ∧ r.Spans u ∧ Regex.empty.Spans w
      simp [spans_empty]
  | cons s row => exact spans_seq first (anchorFree_seqAll others)

theorem spans_single (one : r.single? = some set) :
    r.Spans v ↔ ∃ c, v = [c] ∧ set.contains c = true := by
  rw [Spans, matches_single one]
  constructor
  · rintro ⟨length, mem⟩
    obtain ⟨c, rfl⟩ := List.length_eq_one_iff.mp length
    exact ⟨c, rfl, mem⟩
  · rintro ⟨c, rfl, mem⟩
    exact ⟨rfl, mem⟩

theorem spans_letters (w : List Char) {row : List Regex} (free : ∀ r ∈ row, r.anchorFree = true) :
    (seqAll (w.map letter ++ row)).Spans v ↔
      ∃ u t, v = u ++ t ∧ InAnyCase w u ∧ (seqAll row).Spans t := by
  induction w generalizing v with
  | nil => simp [InAnyCase]
  | cons c w ih =>
      have others : ∀ r ∈ w.map letter ++ row, r.anchorFree = true := by
        intro r mem
        rcases List.mem_append.mp mem with letters | mem
        · obtain ⟨d, _, rfl⟩ := List.mem_map.mp letters
          rfl
        · exact free r mem
      rw [List.map_cons, List.cons_append, spans_seqAll_cons rfl others]
      simp only [ih, spans_single (rfl : (letter c).single? = some _), contains_caseless_single]
      constructor
      · rintro ⟨_, _, rfl, ⟨d, rfl, first⟩, u, t, rfl, word, rest⟩
        exact ⟨d :: u, t, rfl, .cons first word, rest⟩
      · rintro ⟨_, t, rfl, word, rest⟩
        cases word with
        | @cons _ d _ u first word => exact ⟨[d], u ++ t, rfl, ⟨d, rfl, first⟩, u, t, rfl, word, rest⟩

theorem spans_word (w : List Char) : (word w).Spans v ↔ InAnyCase w v := by
  have letters : (seqAll (w.map letter ++ [])).Spans v ↔ _ := spans_letters w nofun
  rw [List.append_nil] at letters
  refine letters.trans ⟨?_, fun spelled => ⟨v, [], (List.append_nil v).symm, spelled, .empty 0⟩⟩
  rintro ⟨u, t, rfl, spelled, nothing⟩
  rwa [spans_empty.mp nothing, List.append_nil]

theorem runOf_all : RunOf set v 0 v.length ↔ ∀ c ∈ v, set.contains c = true := by
  constructor
  · intro run c mem
    obtain ⟨k, inside, rfl⟩ := List.getElem_of_mem mem
    have there := run k (Nat.zero_le k) inside
    rwa [List.getElem?_eq_getElem inside] at there
  · intro all k _ inside
    rw [List.getElem?_eq_getElem inside]
    exact all _ (List.getElem_mem inside)

theorem spans_plus (one : r.single? = some set) {greedy : Bool} :
    (Regex.plus greedy r).Spans v ↔ v ≠ [] ∧ ∀ c ∈ v, set.contains c = true := by
  rw [Spans, matches_plus_single one, runOf_all, List.length_pos_iff]

theorem spans_many (many : many? r s = some set) :
    (Regex.alt r s).Spans v ↔ ∀ c ∈ v, set.contains c = true := by
  rw [Spans, matches_many many, runOf_all]
  exact and_iff_right (Nat.zero_le _)

theorem spans_alt : (Regex.alt r s).Spans v ↔ r.Spans v ∨ s.Spans v := by
  constructor
  · intro here
    cases here with
    | altFirst first => exact .inl first
    | altSecond second => exact .inr second
  · rintro (first | second)
    · exact .altFirst first
    · exact .altSecond second

theorem spans_altAll {rs : List Regex} : (altAll rs).Spans v ↔ ∃ r ∈ rs, r.Spans v := by
  induction rs with
  | nil => simp [altAll, spans_single (rfl : fail.single? = some .empty), CharSet.contains]
  | cons r rest ih =>
      cases rest with
      | nil => simp [altAll]
      | cons s rest =>
          calc (altAll (r :: s :: rest)).Spans v
            _ ↔ r.Spans v ∨ (altAll (s :: rest)).Spans v := spans_alt
            _ ↔ r.Spans v ∨ ∃ t ∈ s :: rest, t.Spans v := or_congr_right ih
            _ ↔ ∃ t ∈ r :: s :: rest, t.Spans v :=
                (List.exists_mem_cons_iff (Spans · v) r (s :: rest)).symm

end Regex
end Pattern
end FeatureScan
