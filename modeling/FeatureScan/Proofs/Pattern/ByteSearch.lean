import FeatureScan.Pattern.ByteSearch
import FeatureScan.Proofs.Outcome
import FeatureScan.Proofs.Pattern.Ends
import Mathlib.Order.Bounds.Defs

/-!
The search for the last start, by bytes as by characters. It cuts the text at starts of matches
only, which lie between characters, and the guard of its loop keeps it from searching beyond the
end. Each round leaves a character behind, so it comes to an end, and the last start that it has
found then is the greatest one.
-/

namespace FeatureScan
namespace Pattern

variable {text : List Char} {i j : Nat}

/-- A position of the text has the offset. -/
def IsBoundary (text : List Char) (n : Nat) : Prop := ∃ i ≤ text.length, offset text i = n

theorem offset_cons (c : Char) (rest : List Char) (i : Nat) :
    offset (c :: rest) (i + 1) = c.utf8Size + offset rest i := by
  simp [offset, Text.encodeUtf8]

theorem offset_succ {c : Char} (at_i : text[i]? = some c) :
    offset text (i + 1) = offset text i + c.utf8Size := by
  simp [offset, Text.encodeUtf8, List.take_add_one, at_i]

theorem offset_lt_succ (before : i < text.length) : offset text i < offset text (i + 1) := by
  rw [offset_succ (List.getElem?_eq_getElem before)]
  exact Nat.lt_add_of_pos_right (Char.utf8Size_pos _)

theorem offset_lt (before : i < j) (bound : j ≤ text.length) : offset text i < offset text j := by
  obtain ⟨k, rfl⟩ := Nat.exists_eq_add_of_lt before
  induction k with
  | zero => exact offset_lt_succ bound
  | succ k ih =>
      exact Nat.lt_trans (ih (by omega) (Nat.le_of_lt bound)) (offset_lt_succ bound)

theorem offset_le_iff (low : i ≤ text.length) (high : j ≤ text.length) :
    offset text i ≤ offset text j ↔ i ≤ j := by
  constructor
  · intro le
    exact Nat.le_of_not_lt fun before => Nat.not_lt.mpr le (offset_lt before low)
  · intro le
    rcases Nat.eq_or_lt_of_le le with rfl | before
    · exact Nat.le_refl _
    · exact Nat.le_of_lt (offset_lt before high)

theorem offset_inj (low : i ≤ text.length) (high : j ≤ text.length)
    (same : offset text i = offset text j) : i = j :=
  Nat.le_antisymm ((offset_le_iff low high).mp (Nat.le_of_eq same))
    ((offset_le_iff high low).mp (Nat.le_of_eq same.symm))

theorem offset_cons_eq_succ (c : Char) (rest : List Char) (i : Nat) :
    ∃ n, offset (c :: rest) (i + 1) = n + 1 ∧ c.utf8Size ≤ n + 1 ∧
      n + 1 - c.utf8Size = offset rest i := by
  have some_byte := Char.utf8Size_pos c
  refine ⟨c.utf8Size - 1 + offset rest i, ?_, by omega, by omega⟩
  rw [offset_cons]
  omega

theorem cutAt_offset (bound : i ≤ text.length) : cutAt text (offset text i) = .ok (text.drop i) := by
  induction text generalizing i with
  | nil =>
      obtain rfl : i = 0 := Nat.le_zero.mp bound
      rfl
  | cons c rest ih =>
      cases i with
      | zero => rfl
      | succ i =>
          obtain ⟨n, size, fits, back⟩ := offset_cons_eq_succ c rest i
          rw [size, cutAt, if_neg (Nat.not_lt.mpr fits), back, List.drop_succ_cons]
          exact ih (Nat.le_of_succ_le_succ bound)

theorem positionFrom_offset (bound : i ≤ text.length) : positionFrom text (offset text i) = i := by
  induction text generalizing i with
  | nil => exact (Nat.le_zero.mp bound).symm
  | cons c rest ih =>
      cases i with
      | zero => rfl
      | succ i =>
          obtain ⟨n, size, _, back⟩ := offset_cons_eq_succ c rest i
          rw [size, positionFrom, back, ih (Nat.le_of_succ_le_succ bound)]

/-- The text can be cut where a position has the offset, and nowhere else. -/
theorem cutAt_eq_ok {n : Nat} {rest : List Char} :
    cutAt text n = .ok rest ↔ ∃ i ≤ text.length, offset text i = n ∧ text.drop i = rest := by
  constructor
  · intro cut
    fun_induction cutAt text n with
    | case1 text =>
        cases cut
        exact ⟨0, Nat.zero_le _, rfl, rfl⟩
    | case2 => cases cut
    | case3 => cases cut
    | case4 c text n fits ih =>
        obtain ⟨i, bound, here, same⟩ := ih cut
        refine ⟨i + 1, Nat.succ_le_succ bound, ?_, same⟩
        rw [offset_cons, here]
        omega
  · rintro ⟨i, bound, rfl, rfl⟩
    exact cutAt_offset bound

example : cutAt ['é', 'a'] 1 = .error .insideCharacter := rfl

namespace Regex

variable {r : Regex} {last : Option Nat} {rounds fuel : Nat}

theorem findFromByte_offset (bound : i ≤ text.length) :
    r.findFromByte text (offset text i) =
      .ok ((r.findFrom text.toArray i).map fun m => (offset text m.1, offset text m.2)) := by
  have within := (offset_le_iff bound (Nat.le_refl _)).mpr bound
  rw [findFromByte, if_pos within, positionFrom_offset bound]

/-- Where a search goes on that has come to a position, which may be the one beyond the end. -/
def searchOffset (text : List Char) (i : Nat) : Nat :=
  if i ≤ text.length then offset text i else offset text text.length + 1

theorem searchOffset_succ (bound : i ≤ text.length) :
    offset text i + (text.drop i).head?.elim 1 Char.utf8Size = searchOffset text (i + 1) := by
  rw [List.head?_drop, searchOffset]
  rcases Nat.eq_or_lt_of_le bound with rfl | before
  · rw [if_neg (Nat.not_succ_le_self _), List.getElem?_eq_none (Nat.le_refl _), Option.elim_none]
  · have at_i := List.getElem?_eq_getElem before
    rw [if_pos (Nat.succ_le_of_lt before), offset_succ at_i, at_i, Option.elim_some]

/-- A round finds what a search by characters finds from the same position on, and cuts the text
where it may be cut. -/
theorem lastStartByByte_succ (bound : i ≤ text.length) :
    r.lastStartByByte text (rounds + 1) (searchOffset text i) last =
      match r.findFrom text.toArray i with
      | none => .ok last
      | some (s, _) =>
          r.lastStartByByte text rounds (searchOffset text (s + 1)) (some (offset text s)) := by
  have within := (offset_le_iff bound (Nat.le_refl _)).mpr bound
  rw [searchOffset, if_pos bound, lastStartByByte, if_pos within, findFromByte_offset bound, ok_bind]
  cases found : r.findFrom text.toArray i with
  | none => rfl
  | some m =>
      obtain ⟨_, inside, _⟩ := findFrom_eq_some found
      rw [List.size_toArray] at inside
      simp only [Option.map_some, cutAt_offset inside, ok_bind, searchOffset_succ inside]

theorem lastStartByByte_beyond :
    r.lastStartByByte text (rounds + 1) (searchOffset text (text.length + 1)) last = .ok last := by
  rw [searchOffset, if_neg (by omega), lastStartByByte, if_neg (by omega)]

/-- The search by bytes ends within the rounds that a search by characters takes, with the same
start. -/
theorem lastStartByByte_eq (found : Option Nat) (bound : i ≤ text.length + 1)
    (enough : text.length + 2 - i ≤ rounds) (enough' : text.length + 2 - i ≤ fuel) :
    r.lastStartByByte text rounds (searchOffset text i) (found.map (offset text)) =
      .ok ((r.lastStartWithin text.toArray fuel i found).map (offset text)) := by
  induction rounds generalizing i fuel found with
  | zero => omega
  | succ rounds ih =>
      obtain ⟨fuel, rfl⟩ : ∃ n, fuel = n + 1 := ⟨fuel - 1, by omega⟩
      rw [lastStartWithin]
      by_cases inside : i ≤ text.length
      · rw [lastStartByByte_succ inside]
        cases next : r.findFrom text.toArray i with
        | none => rfl
        | some m =>
            obtain ⟨low, high, _⟩ := findFrom_eq_some next
            rw [List.size_toArray] at high
            exact ih (some m.1) (by omega) (by omega) (by omega)
      · obtain rfl : i = text.length + 1 := by omega
        have nothing : r.findFrom text.toArray (text.length + 1) = none := by
          simp [findFrom, findWithin]
        rw [lastStartByByte_beyond, nothing]

theorem lastStartByByte_offset (bound : i ≤ text.length) (enough : text.length + 2 - i ≤ rounds) :
    r.lastStartByByte text rounds (offset text i) none =
      .ok ((r.lastStart text.toArray i).map (offset text)) := by
  have run := lastStartByByte_eq (r := r) none (Nat.le_succ_of_le bound) enough (Nat.le_refl _)
  rwa [searchOffset, if_pos bound] at run

/-- Some match of the expression in the text starts at the offset. -/
def StartsAtByte (r : Regex) (text : List Char) (n : Nat) : Prop :=
  ∃ i j, i ≤ text.length ∧ offset text i = n ∧ Matches text.toArray r i j

theorem startsAtByte_offset (bound : i ≤ text.length) :
    r.StartsAtByte text (offset text i) ↔ r.StartsAt text.toArray i := by
  rw [startsAt_iff (by simpa using bound)]
  constructor
  · rintro ⟨k, j, inside, same, here⟩
    rw [← offset_inj inside bound same]
    exact ⟨j, here⟩
  · rintro ⟨j, here⟩
    exact ⟨i, j, bound, rfl, here⟩

theorem lastStart_eq_some_iff_isGreatest (bound : i ≤ text.length) {k : Nat} :
    r.lastStart text.toArray i = some k ↔
      k ≤ text.length ∧
        IsGreatest {n | offset text i ≤ n ∧ r.StartsAtByte text n} (offset text k) := by
  rw [lastStart_eq_some, List.size_toArray]
  constructor
  · rintro ⟨low, inside, here, beyond⟩
    refine ⟨inside, ⟨(offset_le_iff bound inside).mpr low, (startsAtByte_offset inside).mpr here⟩, ?_⟩
    rintro n ⟨_, l, j, within, rfl, there⟩
    refine (offset_le_iff within inside).mpr (Nat.le_of_not_lt fun later => ?_)
    exact beyond l later within ((startsAt_iff (by simpa using within)).mpr ⟨j, there⟩)
  · rintro ⟨inside, ⟨low, here⟩, greatest⟩
    have after := (offset_le_iff bound inside).mp low
    refine ⟨after, inside, (startsAtByte_offset inside).mp here, fun l later within there => ?_⟩
    have reached := (offset_le_iff bound within).mpr (Nat.le_trans after (Nat.le_of_lt later))
    have le := greatest ⟨reached, (startsAtByte_offset within).mpr there⟩
    exact Nat.not_lt.mpr ((offset_le_iff within inside).mp le) later

theorem lastStart_eq_none_iff (bound : i ≤ text.length) :
    r.lastStart text.toArray i = none ↔
      ∀ n, offset text i ≤ n → ¬ r.StartsAtByte text n := by
  rw [lastStart_eq_none, List.size_toArray]
  constructor
  · rintro never n low ⟨k, j, within, rfl, here⟩
    refine never k ((offset_le_iff bound within).mp low) within ?_
    exact (startsAt_iff (by simpa using within)).mpr ⟨j, here⟩
  · intro never k low within here
    refine never (offset text k) ((offset_le_iff bound within).mpr low) ?_
    exact (startsAtByte_offset within).mpr here

/-- From any boundary on, the search by bytes comes to an end without a fault, with the greatest
offset at which a match starts, or with none if no match starts there or later. It is the offset
of the start that the search by characters finds. -/
theorem lastStart_greatest_byte (r : Regex) (text : List Char) {n : Nat}
    (boundary : IsBoundary text n) :
    ∃ last : Option Nat,
      (∀ rounds, text.length + 2 ≤ rounds → r.lastStartByByte text rounds n none = .ok last) ∧
        (∀ s, last = some s ↔ IsGreatest {m | n ≤ m ∧ r.StartsAtByte text m} s) ∧
        (last = none ↔ ∀ m, n ≤ m → ¬ r.StartsAtByte text m) ∧
        ∀ i ≤ text.length, offset text i = n →
          last = (r.lastStart text.toArray i).map (offset text) := by
  obtain ⟨i, bound, rfl⟩ := boundary
  refine ⟨(r.lastStart text.toArray i).map (offset text), fun rounds enough => ?_, fun s => ?_, ?_,
    fun k within same => ?_⟩
  · exact lastStartByByte_offset bound (Nat.le_trans (Nat.sub_le _ _) enough)
  · rw [Option.map_eq_some_iff]
    constructor
    · rintro ⟨k, found, rfl⟩
      exact ((lastStart_eq_some_iff_isGreatest bound).mp found).2
    · intro greatest
      obtain ⟨_, k, j, within, rfl, _⟩ := greatest.1
      exact ⟨k, (lastStart_eq_some_iff_isGreatest bound).mpr ⟨within, greatest⟩, rfl⟩
  · rw [Option.map_eq_none_iff]
    exact lastStart_eq_none_iff bound
  · rw [offset_inj within bound same]

/-- Of two matches that overlap behind a character of two bytes, the search finds the second. -/
theorem lastStart_of_overlap :
    let pair : Regex := .seq (.chars (.single 'a')) (.chars (.single 'a'))
    let text := ['é', 'a', 'a', 'a']
    IsBoundary text 2 ∧
      (∀ rounds, 6 ≤ rounds → pair.lastStartByByte text rounds 2 none = .ok (some 3)) ∧
      IsGreatest {m | 2 ≤ m ∧ pair.StartsAtByte text m} 3 := by
  intro pair text
  have boundary : IsBoundary text 2 := ⟨1, by decide, by decide⟩
  obtain ⟨last, run, greatest, _⟩ := lastStart_greatest_byte pair text boundary
  have found : pair.lastStartByByte text 6 2 none = .ok (some 3) := rfl
  obtain rfl : last = some 3 := Except.ok.inj ((run 6 (by decide)).symm.trans found)
  exact ⟨boundary, run, (greatest 3).mp rfl⟩

end Regex

end Pattern
end FeatureScan
