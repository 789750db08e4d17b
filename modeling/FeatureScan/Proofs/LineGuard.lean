import FeatureScan.Rule
import FeatureScan.Proofs.Pattern.Ends
import FeatureScan.Proofs.Pattern.Search

/-!
The guard of a line without what it remembers. All positions on a line share its end, and
of the rejected words on it only the last one matters, so one search from the first match
of a line answers for the later ones too.
-/

namespace FeatureScan
namespace LineGuard

open Pattern

/-- The characters from a position up to the next line break or the end of the text. -/
def restOfLine (text : List Char) (i : Nat) : List Char :=
  (text.drop i).takeWhile fun c => !Text.isLineBreak c

theorem length_takeWhile_not (p : Char → Bool) (l : List Char) :
    (l.takeWhile fun c => !p c).length = (l.findIdx? p).getD l.length := by
  induction l with
  | nil => rfl
  | cons c rest ih =>
      rw [List.findIdx?_cons]
      cases h : p c with
      | true => simp [h]
      | false =>
          simp only [List.takeWhile_cons, h, Bool.not_false, if_true, List.length_cons, ih]
          cases rest.findIdx? p <;> simp

theorem lineEnd_eq {text : Array Char} {i : Nat} (bound : i ≤ text.size) :
    lineEnd text i = i + (restOfLine text.toList i).length := by
  have whole : (text.extract i text.size).findIdx? Text.isLineBreak =
      (text.toList.drop i).findIdx? Text.isLineBreak := by
    rw [← List.findIdx?_toArray]
    congr 1
    apply Array.ext'
    rw [Array.toList_extract, List.extract_eq_take_drop, List.take_of_length_le (by simp)]
  rw [lineEnd, whole, restOfLine, length_takeWhile_not]
  cases (text.toList.drop i).findIdx? Text.isLineBreak with
  | none =>
      simp only [Option.getD_none, List.length_drop, Array.length_toList]
      omega
  | some k => rfl

theorem takeWhile_drop {p : Char → Bool} {l : List Char} {k : Nat}
    (within : k ≤ (l.takeWhile p).length) : (l.drop k).takeWhile p = (l.takeWhile p).drop k := by
  induction k generalizing l with
  | zero => rfl
  | succ k ih =>
      cases l with
      | nil => rfl
      | cons c rest =>
          cases h : p c with
          | true =>
              simp only [List.takeWhile_cons, h, if_true, List.length_cons] at within ⊢
              exact ih (Nat.le_of_succ_le_succ within)
          | false => simp [h] at within

theorem lineEnd_bounds {text : Array Char} {i : Nat} (bound : i ≤ text.size) :
    i ≤ lineEnd text i ∧ lineEnd text i ≤ text.size := by
  have size : text.toList.length = text.size := Array.length_toList
  have le : (restOfLine text.toList i).length ≤ (text.toList.drop i).length :=
    (List.takeWhile_sublist _).length_le
  rw [List.length_drop, size] at le
  rw [lineEnd_eq bound]
  omega

theorem any_getElem?_length_takeWhile {p : Char → Bool} {l : List Char}
    (more : (l.takeWhile fun c => !p c).length < l.length) :
    l[(l.takeWhile fun c => !p c).length]?.any p = true := by
  induction l with
  | nil => cases more
  | cons c rest ih =>
      cases h : p c with
      | true => simp [h]
      | false =>
          simp only [List.takeWhile_cons, h, Bool.not_false, if_true, List.length_cons] at more ⊢
          exact ih (Nat.lt_of_succ_lt_succ more)

theorem lineEnd_eq_of_le {text : Array Char} {i e : Nat} (bound : i ≤ text.size) (low : i ≤ e)
    (within : e ≤ lineEnd text i) : lineEnd text e = lineEnd text i := by
  have high := (lineEnd_bounds bound).2
  rw [lineEnd_eq bound] at within high ⊢
  obtain ⟨k, rfl⟩ := Nat.exists_eq_add_of_le low
  rw [lineEnd_eq (by omega)]
  have rest : restOfLine text.toList (i + k) = (restOfLine text.toList i).drop k := by
    unfold restOfLine at within ⊢
    rw [← List.drop_drop, takeWhile_drop (by omega)]
  rw [rest, List.length_drop]
  omega

/-- The rejected word does not start on the rest of the line. -/
def Clear (rejected : Regex) (text : Array Char) (e : Nat) : Prop :=
  ∀ k, e ≤ k → k ≤ lineEnd text e → ¬ rejected.StartsAt (upTo text (lineEnd text e)) k

theorem size_upTo (text : Array Char) (i : Nat) : (upTo text i).size = min i text.size := by
  simp [upTo]

/-- What is known of a line from its position `p` on answers for a later position. -/
theorem lastRejected_all {rejected : Regex} {text : Array Char} {p e : Nat} {line : Line}
    (known : line = .ofPosition rejected text p) (bound : p ≤ text.size) (low : p ≤ e)
    (within : e ≤ line.stop) :
    (line.lastRejected.all (· < e)) = true ↔ Clear rejected text e := by
  subst known
  have stop : lineEnd text e = lineEnd text p := lineEnd_eq_of_le bound low within
  have size : (upTo text (lineEnd text p)).size = lineEnd text p := by
    rw [size_upTo]
    exact Nat.min_eq_left (lineEnd_bounds bound).2
  have within : e ≤ lineEnd text p := within
  unfold Clear
  rw [stop]
  simp only [Line.ofPosition]
  cases last : rejected.lastStart (upTo text (lineEnd text p)) p with
  | none =>
      refine ⟨fun _ k low' high => ?_, fun _ => rfl⟩
      exact Regex.lastStart_eq_none.mp last k (by omega) (by omega)
  | some s =>
      obtain ⟨after, bound', here, beyond⟩ := Regex.lastStart_eq_some.mp last
      simp only [Option.all_some, decide_eq_true_eq]
      constructor
      · exact fun before k low' high => beyond k (by omega) (by omega)
      · intro clear
        refine Nat.lt_of_not_le fun late => ?_
        exact clear s late (by omega) here

/-- The line of a match that ends at `e`, the known one if the match ends on it. -/
def lineOf (rejected : Regex) (text : Array Char) (known : Option Line) (e : Nat) : Line :=
  match known with
  | some line => if e ≤ line.stop then line else .ofPosition rejected text e
  | none => .ofPosition rejected text e

theorem anyPasses_cons (pattern rejected : Regex) (text : Array Char) (known : Option Line)
    (m : Nat × Nat) (rest : List (Nat × Nat)) :
    anyPasses pattern rejected text known (m :: rest) =
      (canEndAtBreak pattern text m ||
        ((lineOf rejected text known m.2).lastRejected.all (· < m.2) ||
          anyPasses pattern rejected text (some (lineOf rejected text known m.2)) rest)) := by
  change (if canEndAtBreak pattern text m then true
    else if (lineOf rejected text known m.2).lastRejected.all (· < m.2) then true
    else anyPasses pattern rejected text (some (lineOf rejected text known m.2)) rest) = _
  cases canEndAtBreak pattern text m with
  | true => rfl
  | false => cases (lineOf rejected text known m.2).lastRejected.all (· < m.2) <;> rfl

theorem lineOf_spec {rejected : Regex} {text : Array Char} {known : Option Line} {e : Nat}
    (bound : e ≤ text.size)
    (earlier : ∀ line, known = some line → ∃ p, line = .ofPosition rejected text p ∧ p ≤ e) :
    ∃ p, lineOf rejected text known e = .ofPosition rejected text p ∧ p ≤ e ∧
      e ≤ (lineOf rejected text known e).stop := by
  have here : e ≤ (Line.ofPosition rejected text e).stop := (lineEnd_bounds bound).1
  unfold lineOf
  cases known with
  | none => exact ⟨e, rfl, Nat.le_refl e, here⟩
  | some line =>
      dsimp only
      split
      next within =>
        obtain ⟨p, same, low⟩ := earlier line rfl
        exact ⟨p, same, low, within⟩
      next => exact ⟨e, rfl, Nat.le_refl e, here⟩

/-- The guard lets a match pass as if each match searched its own line. -/
theorem anyPasses_iff {pattern rejected : Regex} {text : Array Char} {known : Option Line}
    {found : List (Nat × Nat)} (sorted : found.Pairwise fun a b => a.2 ≤ b.2)
    (bound : ∀ m ∈ found, m.2 ≤ text.size)
    (earlier : ∀ line, known = some line →
      ∃ p, line = .ofPosition rejected text p ∧ ∀ m ∈ found, p ≤ m.2) :
    anyPasses pattern rejected text known found = true ↔
      ∃ m ∈ found, canEndAtBreak pattern text m = true ∨ Clear rejected text m.2 := by
  induction found generalizing known with
  | nil => simp [anyPasses]
  | cons m rest ih =>
      rw [List.pairwise_cons] at sorted
      have here : m.2 ≤ text.size := bound m List.mem_cons_self
      obtain ⟨p, same, low, within⟩ := lineOf_spec here fun line h => by
        obtain ⟨p, same, low⟩ := earlier line h
        exact ⟨p, same, low m List.mem_cons_self⟩
      have clear := lastRejected_all same (Nat.le_trans low here) low within
      -- What is known of this line was found before the later matches end.
      have later := @ih (some (lineOf rejected text known m.2)) sorted.2
        (fun n hn => bound n (List.mem_cons_of_mem m hn)) fun line h => by
          cases h
          exact ⟨p, same, fun n hn => Nat.le_trans low (sorted.1 n hn)⟩
      rw [anyPasses_cons, Bool.or_eq_true, Bool.or_eq_true, clear, later]
      simp only [List.mem_cons, exists_eq_or_imp, or_assoc]

theorem isMatch_guarded_iff (pattern rejected : Regex) (h : Haystack) :
    (Rule.guarded pattern rejected).isMatch h = true ↔
      ∃ m ∈ pattern.findAll h.chars,
        canEndAtBreak pattern h.chars m = true ∨ Clear rejected h.chars m.2 := by
  refine anyPasses_iff (Regex.findAll_ends_pairwise pattern h.chars) (fun m hm => ?_)
    fun _ h => (nomatch h)
  obtain ⟨bound, here⟩ := Regex.mem_findAll hm
  exact (Regex.matches_of_matchAt here).le_size bound

section

variable {rejected rejected' : Regex}
  (alike : ∀ text i j, Regex.Matches text rejected i j ↔ Regex.Matches text rejected' i j)
include alike

theorem clear_congr {text : Array Char} {e : Nat} (bound : e ≤ text.size) :
    Clear rejected text e ↔ Clear rejected' text e := by
  have high := (lineEnd_bounds bound).2
  refine forall₃_congr fun k _ within => not_congr ?_
  have inside : k ≤ (upTo text (lineEnd text e)).size := by
    rw [size_upTo]
    omega
  rw [Regex.startsAt_iff inside, Regex.startsAt_iff inside]
  exact exists_congr fun j => alike _ k j

/-- A guard sees no more of the rejected pattern than what it matches. -/
theorem isMatch_guarded_congr (pattern : Regex) (h : Haystack) :
    (Rule.guarded pattern rejected).isMatch h = (Rule.guarded pattern rejected').isMatch h := by
  rw [Bool.eq_iff_iff, isMatch_guarded_iff, isMatch_guarded_iff]
  refine exists_congr fun m => and_congr_right fun found => or_congr_right ?_
  obtain ⟨bound, here⟩ := Regex.mem_findAll found
  exact clear_congr alike ((Regex.matches_of_matchAt here).le_size bound)

end

end LineGuard
end FeatureScan
