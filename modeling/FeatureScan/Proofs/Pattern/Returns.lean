import FeatureScan.Proofs.Pattern.Reach
import FeatureScan.Proofs.Pattern.Runs
import FeatureScan.Proofs.Text.Returns

/-!
Expressions that do not tell a line feed from a carriage return with a line feed. A match in the
longer text is followed through its expression. Where it stops in the middle of a line break, a
match in the shorter text can stop before the line feed, behind it, or at either of the two, and
what comes next has to go on from there.
-/

namespace FeatureScan
namespace Pattern

open Text (withReturns shifted Place)

/-- The set has neither character of a line break. -/
def CharSet.apart (set : CharSet) : Bool := !set.contains '\r' && !set.contains '\n'

/-- The set has both characters of a line break. -/
def CharSet.spans (set : CharSet) : Bool := set.contains '\r' && set.contains '\n'

/-- The anchor holds at no line break but for the characters around it. -/
def Anchor.offBreaks : Anchor → Bool
  | .wordEdge w => w.apart
  | _ => false

section

variable {s : List Char} {w : CharSet} {i : Nat}

theorem CharSet.contains_of_apart {set : CharSet} (apart : set.apart = true) :
    set.contains '\r' = false ∧ set.contains '\n' = false := by
  simpa [CharSet.apart] using apart

theorem behind_shifted (w : CharSet) (bound : i ≤ s.length) :
    behind w (withReturns s).toArray (shifted s i) = behind w s.toArray i := by
  cases i with
  | zero => rfl
  | succ k =>
      have at_k : s[k]? = some s[k] := List.getElem?_eq_getElem bound
      rw [Text.shifted_succ at_k]
      by_cases feed : s[k] = '\n'
      · rw [feed] at at_k
        simp [behind, feed, at_k, (Text.getElem?_shifted_lineFeed at_k).2]
      · simp [behind, feed, at_k, Text.getElem?_shifted_of_ne at_k feed]

theorem ahead_shifted (apart : w.apart = true) :
    ahead w (withReturns s).toArray (shifted s i) = ahead w s.toArray i := by
  obtain ⟨ret, lineFeed⟩ := CharSet.contains_of_apart apart
  cases at_i : s[i]? with
  | none => simp [ahead, at_i, Text.getElem?_shifted_none at_i]
  | some c =>
      by_cases feed : c = '\n'
      · subst feed
        simp [ahead, at_i, (Text.getElem?_shifted_lineFeed at_i).1, ret, lineFeed]
      · simp [ahead, at_i, Text.getElem?_shifted_of_ne at_i feed]

theorem Anchor.holds_shifted {a : Anchor} (off : a.offBreaks = true) (bound : i ≤ s.length) :
    a.holds (withReturns s).toArray (shifted s i) = a.holds s.toArray i := by
  cases a with
  | wordEdge w => rw [holds, holds, behind_shifted w bound, ahead_shifted off]
  | textStart | textEnd | lineStart | lineEnd | anyLineStart | anyLineEnd | notWordEdge
  | wordStart | wordEnd | wordStartHalf | wordEndHalf => cases off

theorem Anchor.holds_midBreak {a : Anchor} (off : a.offBreaks = true) (at_i : s[i]? = some '\n') :
    a.holds (withReturns s).toArray (shifted s i + 1) = false := by
  cases a with
  | wordEdge w =>
      obtain ⟨ret, lineFeed⟩ := CharSet.contains_of_apart off
      have around := Text.getElem?_shifted_lineFeed at_i
      simp [holds, behind, ahead, around.1, around.2, ret, lineFeed]
  | textStart | textEnd | lineStart | lineEnd | anyLineStart | anyLineEnd | notWordEdge
  | wordStart | wordEnd | wordStartHalf | wordEndHalf => cases off

end

section

variable {s : List Char} {set : CharSet}

/-- The first character of a run, and the rest of the run. -/
theorem exists_step_of_run {n : Nat} {x : Place} (valid : x.Valid s)
    (run : RunOf set (withReturns s) (x.position s) (x.position s + (n + 1))) :
    ∃ c y, Place.Step s x c y ∧ set.contains c = true ∧ y.Valid s ∧
      y.position s = x.position s + 1 ∧
      RunOf set (withReturns s) (y.position s) (y.position s + n) := by
  obtain ⟨c, at_x, mem⟩ :=
    (Option.any_eq_true _ _).mp (run (x.position s) (Nat.le_refl _) (by omega))
  obtain ⟨y, step⟩ := Place.exists_step valid at_x
  have moved := step.position
  exact ⟨c, y, step, mem, step.valid, moved, fun k low high => run k (by omega) (by omega)⟩

theorem step_of_spans {x y : Place} {c : Char} (step : Place.Step s x c y)
    (spans : set.spans = true) (mem : set.contains c = true) :
    x.low ≤ y.low ∧ x.high ≤ y.high ∧ y.high = x.low + 1 ∧ RunOf set s x.low y.high := by
  have lineFeed : set.contains '\n' = true := (Bool.and_eq_true_iff.mp spans).2
  cases step with
  | other at_k plain => simp [Place.low, Place.high, runOf_single at_k mem]
  | ret at_k | feed at_k => simp [Place.low, Place.high, runOf_single at_k lineFeed]

/-- A run of a set with both characters of a line break covers the line breaks that it cuts. -/
theorem run_of_spans (spans : set.spans = true) {n : Nat} {x : Place} (valid : x.Valid s)
    (run : RunOf set (withReturns s) (x.position s) (x.position s + n)) :
    ∃ y : Place, y.Valid s ∧ y.position s = x.position s + n ∧ x.low ≤ y.low ∧ x.high ≤ y.high ∧
      (0 < n → x.low < y.high) ∧ RunOf set s x.low y.high := by
  induction n generalizing x with
  | zero =>
      refine ⟨x, valid, rfl, Nat.le_refl _, Nat.le_refl _, nofun, ?_⟩
      cases x with
      | here i => exact runOf_of_le (Nat.le_refl i)
      | midBreak i => exact runOf_single valid (Bool.and_eq_true_iff.mp spans).2
  | succ n ih =>
      obtain ⟨c, y, step, mem, valid', moved, rest⟩ := exists_step_of_run valid run
      obtain ⟨low, high, next, first⟩ := step_of_spans step spans mem
      obtain ⟨z, valid'', there, low', high', _, later⟩ := ih valid' rest
      exact ⟨z, valid'', by omega, by omega, by omega, fun _ => by omega,
        first.append later y.low_le_high⟩

/-- A run without line feeds begins at a place that the shorter text has. Only a carriage return
at its end can bring it into the middle of a line break. -/
theorem run_of_no_lineFeed (no_feed : set.contains '\n' = false) {n : Nat} {x : Place}
    (valid : x.Valid s)
    (run : RunOf set (withReturns s) (x.position s) (x.position s + (n + 1))) :
    ∃ (i : Nat) (y : Place), x = .here i ∧ y.Valid s ∧ y.position s = x.position s + (n + 1) ∧
      i ≤ y.low ∧ RunOf set s i y.low ∧
      (set.contains '\r' = false → y = .here y.low ∧ i < y.low) := by
  induction n generalizing x with
  | zero =>
      obtain ⟨c, y, step, mem, valid', moved, _⟩ := exists_step_of_run valid run
      cases step with
      | @other i _ at_i plain =>
          exact ⟨i, _, rfl, valid', moved, Nat.le_succ i, runOf_single at_i mem,
            fun _ => ⟨rfl, Nat.lt_succ_self i⟩⟩
      | @ret i at_i =>
          exact ⟨i, _, rfl, valid', moved, Nat.le_refl i, runOf_of_le (Nat.le_refl i),
            fun none => nomatch mem.symm.trans none⟩
      | feed => cases mem.symm.trans no_feed
  | succ n ih =>
      obtain ⟨c, y, step, mem, valid', moved, rest⟩ := exists_step_of_run valid run
      obtain ⟨i, z, begins, valid'', there, low, later, ends⟩ := ih valid' rest
      cases step with
      | @other k _ at_k plain =>
          cases begins
          refine ⟨k, z, rfl, valid'', by omega, by omega,
            (runOf_single at_k mem).append later (Nat.le_refl _), fun none => ?_⟩
          obtain ⟨ended, after⟩ := ends none
          exact ⟨ended, by omega⟩
      | ret => cases begins
      | feed => cases mem.symm.trans no_feed

end

/-- What is known when a match stops in the middle of a line break: whether a match in the shorter
text can stop before the line feed, and whether it can stop behind it. -/
structure Sides where
  low : Bool
  high : Bool
  deriving Repr, DecidableEq

namespace Sides

def both : Sides := ⟨true, true⟩

def inter (k l : Sides) : Sides := ⟨k.low && l.low, k.high && l.high⟩

/-- The positions that are promised of a place. One that both texts have is always promised. -/
def Hold (k : Sides) (P : Nat → Prop) (x : Place) : Prop :=
  (k.low = true → P x.low) ∧ (k.high = true → P x.high) ∧ ∀ i, x = .here i → P i

theorem hold_here {k : Sides} {P : Nat → Prop} {i : Nat} : k.Hold P (.here i) ↔ P i :=
  ⟨fun h => h.2.2 i rfl, fun h => ⟨fun _ => h, fun _ => h, fun _ same => by cases same; exact h⟩⟩

/-- Where all positions are starts, both sides of a place are. -/
theorem hold_both {s : List Char} {x : Place} (valid : x.Valid s) :
    both.Hold (· ≤ s.length) x := by
  cases x with
  | here i => exact hold_here.mpr valid
  | midBreak i =>
      have within : i < s.length := (List.getElem?_eq_some_iff.mp valid).1
      exact ⟨fun _ => Nat.le_of_lt within, fun _ => within, nofun⟩

theorem Hold.mono {k : Sides} {P Q : Nat → Prop} {x : Place} (hold : k.Hold P x)
    (more : ∀ i, P i → Q i) : k.Hold Q x :=
  ⟨fun h => more _ (hold.1 h), fun h => more _ (hold.2.1 h), fun i same => more i (hold.2.2 i same)⟩

theorem Hold.weaken {k l : Sides} {P : Nat → Prop} {x : Place} (hold : k.Hold P x)
    (low : l.low = true → k.low = true) (high : l.high = true → k.high = true) : l.Hold P x :=
  ⟨fun h => hold.1 (low h), fun h => hold.2.1 (high h), hold.2.2⟩

/-- What is promised when a character is taken, in a run or alone. -/
def take (k : Sides) (set : CharSet) : Option Sides :=
  if set.apart then some both
  else if set.spans && k.low then some ⟨false, true⟩
  else none

/-- What is promised behind a run that may be empty. -/
def takeMany (k : Sides) (set : CharSet) : Option Sides :=
  if set.spans && k.low then some both
  else if set.spans && k.high then some ⟨false, true⟩
  else if set.contains '\n' then none
  else some ⟨k.low, false⟩

theorem take_eq_some {k k' : Sides} {set : CharSet} (h : k.take set = some k') :
    set.apart = true ∧ k' = both ∨ set.spans = true ∧ k.low = true ∧ k' = ⟨false, true⟩ := by
  grind [take]

theorem takeMany_eq_some {k k' : Sides} {set : CharSet} (h : k.takeMany set = some k') :
    set.spans = true ∧ k.low = true ∧ k' = both ∨
      set.spans = true ∧ k.high = true ∧ k' = ⟨false, true⟩ ∨
      set.contains '\n' = false ∧ k' = ⟨k.low, false⟩ := by
  grind [takeMany]

end Sides

namespace Regex

/-- What is promised behind a match of the expression, if anything is. -/
def follow : Regex → Sides → Option Sides
  | .empty, k => some k
  | .look a, _ => if a.offBreaks then some .both else none
  | .chars set, k => k.take set
  | .seq r s, k => (r.follow k).bind s.follow
  | .alt r s, k =>
      match many? r s with
      | some set => k.takeMany set
      | none => (r.follow k).bind fun a => (s.follow k).map a.inter
  | .plus _ r, k => r.single?.bind k.take

/-- The ends of the matches in a text that start where `P` holds. -/
def Ends (text : List Char) (r : Regex) (P : Nat → Prop) (j : Nat) : Prop :=
  ∃ i, P i ∧ Matches text.toArray r i j

/-- From a place of which `k` is promised a match in the longer text goes to one of which `k'` is
promised. -/
def Carries (s : List Char) (r : Regex) (k k' : Sides) : Prop :=
  ∀ {x : Place} {q : Nat}, x.Valid s → Matches (withReturns s).toArray r (x.position s) q →
    ∃ y : Place, y.Valid s ∧ y.position s = q ∧ ∀ P, k.Hold P x → k'.Hold (Ends s r P) y

variable {s : List Char} {r : Regex} {k k' : Sides} {set : CharSet}

theorem carries_empty (k : Sides) : Carries s .empty k k := by
  intro x q valid here
  cases here
  refine ⟨x, valid, rfl, fun P ⟨low, high, same⟩ => ⟨fun h => ?_, fun h => ?_, fun i h => ?_⟩⟩
  · exact ⟨_, low h, .empty _⟩
  · exact ⟨_, high h, .empty _⟩
  · exact ⟨_, same i h, .empty _⟩

theorem carries_look {a : Anchor} (off : a.offBreaks = true) (k : Sides) :
    Carries s (.look a) k .both := by
  intro x q valid here
  cases here with
  | look holds =>
      cases x with
      | here i =>
          refine ⟨.here i, valid, rfl, fun P hold => Sides.hold_here.mpr ⟨i, ?_, .look ?_⟩⟩
          · exact Sides.hold_here.mp hold
          · exact (Anchor.holds_shifted off valid).symm.trans holds
      | midBreak i => cases (Anchor.holds_midBreak off valid).symm.trans holds

theorem carries_single (one : r.single? = some set) (taken : k.take set = some k') :
    Carries s r k k' := by
  intro x q valid here
  obtain ⟨rfl, inside⟩ := (matches_single one).mp here
  obtain ⟨c, at_x, mem⟩ := (Option.any_eq_true _ _).mp inside
  obtain ⟨y, step⟩ := Place.exists_step valid at_x
  refine ⟨y, step.valid, step.position, fun P hold => ?_⟩
  rcases Sides.take_eq_some taken with ⟨apart, rfl⟩ | ⟨spans, low, rfl⟩
  · obtain ⟨no_return, no_feed⟩ := CharSet.contains_of_apart apart
    cases step with
    | @other i _ at_i plain =>
        refine Sides.hold_here.mpr ⟨i, Sides.hold_here.mp hold, (matches_single one).mpr ⟨rfl, ?_⟩⟩
        rw [at_i]
        exact mem
    | ret => cases mem.symm.trans no_return
    | feed => cases mem.symm.trans no_feed
  · obtain ⟨_, _, next, run⟩ := step_of_spans step spans mem
    have there : Ends s r P y.high :=
      ⟨x.low, hold.1 low, (matches_single one).mpr ⟨next, run _ (Nat.le_refl _) (by omega)⟩⟩
    exact ⟨nofun, fun _ => there, fun i same => by subst same; exact there⟩

theorem carries_plus (one : r.single? = some set) (taken : k.take set = some k') (greedy : Bool) :
    Carries s (.plus greedy r) k k' := by
  intro x q valid here
  obtain ⟨before, run⟩ := (matches_plus_single one).mp here
  obtain ⟨n, rfl⟩ := Nat.exists_eq_add_of_lt before
  rcases Sides.take_eq_some taken with ⟨apart, rfl⟩ | ⟨spans, low, rfl⟩
  · obtain ⟨no_return, no_feed⟩ := CharSet.contains_of_apart apart
    obtain ⟨i, y, rfl, valid', there, _, run, ends⟩ := run_of_no_lineFeed no_feed valid run
    obtain ⟨ended, after⟩ := ends no_return
    refine ⟨y, valid', there, fun P hold => ?_⟩
    rw [ended]
    exact Sides.hold_here.mpr
      ⟨i, Sides.hold_here.mp hold, (matches_plus_single one).mpr ⟨after, run⟩⟩
  · obtain ⟨y, valid', there, _, _, after, run⟩ := run_of_spans spans (n := n + 1) valid run
    refine ⟨y, valid', there, fun P hold => ?_⟩
    have reached : Ends s (.plus greedy r) P y.high :=
      ⟨x.low, hold.1 low, (matches_plus_single one).mpr ⟨after (Nat.succ_pos n), run⟩⟩
    exact ⟨nofun, fun _ => reached, fun i same => by subst same; exact reached⟩

theorem carries_many {first second : Regex} (many : many? first second = some set)
    (taken : k.takeMany set = some k') : Carries s (.alt first second) k k' := by
  intro x q valid here
  obtain ⟨bound, run⟩ := (matches_many many).mp here
  obtain ⟨n, rfl⟩ := Nat.exists_eq_add_of_le bound
  have ends {P : Nat → Prop} {i j : Nat} (hi : P i) (bound : i ≤ j) (run : RunOf set s i j) :
      Ends s (.alt first second) P j := ⟨i, hi, (matches_many many).mpr ⟨bound, run⟩⟩
  rcases Sides.takeMany_eq_some taken with ⟨spans, low, rfl⟩ | ⟨spans, high, rfl⟩ | ⟨no_feed, rfl⟩
  · obtain ⟨y, valid', there, before, after, _, run⟩ := run_of_spans spans valid run
    refine ⟨y, valid', there, fun P hold => ?_⟩
    have to_low := ends (hold.1 low) before (run.sub (Nat.le_refl _) y.low_le_high)
    have to_high := ends (hold.1 low) (Nat.le_trans before y.low_le_high) run
    exact ⟨fun _ => to_low, fun _ => to_high, fun i same => by subst same; exact to_low⟩
  · obtain ⟨y, valid', there, before, after, _, run⟩ := run_of_spans spans valid run
    refine ⟨y, valid', there, fun P hold => ?_⟩
    have to_high := ends (hold.2.1 high) after (run.sub x.low_le_high (Nat.le_refl _))
    exact ⟨nofun, fun _ => to_high, fun i same => by subst same; exact to_high⟩
  · cases n with
    | zero =>
        refine ⟨x, valid, rfl, fun P hold => ⟨fun low => ?_, nofun, fun i same => ?_⟩⟩
        · exact ends (hold.1 low) (Nat.le_refl _) (runOf_of_le (Nat.le_refl _))
        · exact ends (hold.2.2 i same) (Nat.le_refl _) (runOf_of_le (Nat.le_refl _))
    | succ n =>
        obtain ⟨i, y, rfl, valid', there, before, run, _⟩ := run_of_no_lineFeed no_feed valid run
        refine ⟨y, valid', there, fun P hold => ?_⟩
        have to_low := ends (Sides.hold_here.mp hold) before run
        exact ⟨fun _ => to_low, nofun, fun i same => by subst same; exact to_low⟩

theorem carries_of_follow (promised : r.follow k = some k') : Carries s r k k' := by
  induction r generalizing k k' with
  | empty =>
      cases promised
      exact carries_empty k
  | look a =>
      rw [follow] at promised
      split at promised
      next off =>
        cases promised
        exact carries_look off k
      next => cases promised
  | chars set => exact carries_single rfl promised
  | seq r s first second =>
      obtain ⟨k'', before, after⟩ := Option.bind_eq_some_iff.mp promised
      intro x q valid here
      cases here with
      | seq front back =>
          obtain ⟨y, valid', rfl, hold⟩ := first before valid front
          obtain ⟨z, valid'', there, hold'⟩ := second after valid' back
          refine ⟨z, valid'', there, fun P start => ?_⟩
          refine (hold' _ (hold P start)).mono fun j => ?_
          rintro ⟨m, ⟨i, start, front⟩, back⟩
          exact ⟨i, start, .seq front back⟩
  | alt r s first second =>
      rw [follow] at promised
      split at promised
      next many => exact carries_many many promised
      next =>
        obtain ⟨a, left, found⟩ := Option.bind_eq_some_iff.mp promised
        obtain ⟨b, right, rfl⟩ := Option.map_eq_some_iff.mp found
        intro x q valid here
        cases here with
        | altFirst here =>
            obtain ⟨y, valid', there, hold⟩ := first left valid here
            refine ⟨y, valid', there, fun P start => ?_⟩
            refine ((hold P start).weaken ?_ ?_).mono fun j => ?_
            · exact fun h => (Bool.and_eq_true_iff.mp h).1
            · exact fun h => (Bool.and_eq_true_iff.mp h).1
            · exact fun ⟨i, start, here⟩ => ⟨i, start, .altFirst here⟩
        | altSecond here =>
            obtain ⟨y, valid', there, hold⟩ := second right valid here
            refine ⟨y, valid', there, fun P start => ?_⟩
            refine ((hold P start).weaken ?_ ?_).mono fun j => ?_
            · exact fun h => (Bool.and_eq_true_iff.mp h).2
            · exact fun h => (Bool.and_eq_true_iff.mp h).2
            · exact fun ⟨i, start, here⟩ => ⟨i, start, .altSecond here⟩
  | plus greedy r =>
      obtain ⟨set, one, taken⟩ := Option.bind_eq_some_iff.mp promised
      exact carries_plus one taken greedy

/-- Whether each match has one in the longer text, from the start that answers to its own to the
end that does. -/
def spreads : Regex → Bool
  | .empty => true
  | .look a => a.offBreaks
  | .chars set => !set.contains '\n'
  | .seq r s | .alt r s => r.spreads && s.spreads
  | .plus _ r => r.single?.any fun set => !set.contains '\n' || set.contains '\r'

/-- Whether each match has one in the longer text from the start that answers to its own. At its
end it may take half of a line break. -/
def opens : Regex → Bool
  | .chars set => !set.contains '\n' || set.contains '\r'
  | .seq r s => r.spreads && s.opens
  | r => r.spreads

theorem run_shifted (covers : (!set.contains '\n' || set.contains '\r') = true) {i n : Nat}
    (run : RunOf set s i (i + n)) :
    RunOf set (withReturns s) (shifted s i) (shifted s (i + n)) := by
  induction n with
  | zero => exact runOf_of_le (Nat.le_refl _)
  | succ n ih =>
      have before := ih (run.sub (Nat.le_refl i) (Nat.le_succ _))
      refine before.append (k := shifted s (i + n)) ?_ (Nat.le_refl _)
      obtain ⟨c, at_k, mem⟩ := (Option.any_eq_true _ _).mp (run (i + n) (by omega) (by omega))
      rw [← Nat.add_assoc, Text.shifted_succ at_k]
      split
      next feed =>
        subst feed
        have ret : set.contains '\r' = true := by simpa [mem] using covers
        obtain ⟨at_first, at_second⟩ := Text.getElem?_shifted_lineFeed at_k
        exact (runOf_single at_first ret).append (runOf_single at_second mem) (Nat.le_refl _)
      next plain => exact runOf_single (Text.getElem?_shifted_of_ne at_k plain) mem

theorem matches_shifted (spreads : r.spreads = true) {i j : Nat} (bound : i ≤ s.length)
    (here : Matches s.toArray r i j) :
    Matches (withReturns s).toArray r (shifted s i) (shifted s j) := by
  induction r generalizing i j with
  | empty =>
      cases here
      exact .empty _
  | look a =>
      cases here with
      | look holds => exact .look ((Anchor.holds_shifted spreads bound).trans holds)
  | chars set =>
      obtain ⟨rfl, mem⟩ := (matches_single rfl).mp here
      obtain ⟨c, at_i, mem⟩ := (Option.any_eq_true _ _).mp mem
      have plain : c ≠ '\n' := by
        rintro rfl
        exact absurd mem (by simpa [Regex.spreads] using spreads)
      rw [Text.shifted_succ at_i, if_neg plain]
      refine (matches_single rfl).mpr ⟨rfl, ?_⟩
      rw [Text.getElem?_shifted_of_ne at_i plain]
      exact mem
  | seq r s first second =>
      obtain ⟨left, right⟩ := Bool.and_eq_true_iff.mp spreads
      cases here with
      | seq front back =>
          have within := front.le_size (by rwa [List.size_toArray])
          rw [List.size_toArray] at within
          exact .seq (first left bound front) (second right within back)
  | alt r s first second =>
      obtain ⟨left, right⟩ := Bool.and_eq_true_iff.mp spreads
      cases here with
      | altFirst here => exact .altFirst (first left bound here)
      | altSecond here => exact .altSecond (second right bound here)
  | plus greedy r =>
      obtain ⟨set, one, covers⟩ := (Option.any_eq_true _ _).mp spreads
      obtain ⟨before, run⟩ := (matches_plus_single one).mp here
      obtain ⟨n, rfl⟩ := Nat.exists_eq_add_of_lt before
      refine (matches_plus_single one).mpr ⟨?_, run_shifted covers (n := n + 1) run⟩
      obtain ⟨c, at_i, _⟩ := (Option.any_eq_true _ _).mp (run i (Nat.le_refl i) before)
      exact Text.shifted_lt at_i before

theorem exists_matches_shifted (opens : r.opens = true) {i j : Nat} (bound : i ≤ s.length)
    (here : Matches s.toArray r i j) :
    ∃ q, Matches (withReturns s).toArray r (shifted s i) q := by
  induction r generalizing i j with
  | chars set =>
      obtain ⟨rfl, mem⟩ := (matches_single rfl).mp here
      have run : RunOf set s i (i + 1) := fun k low high => by
        rwa [Nat.le_antisymm (Nat.le_of_lt_succ high) low]
      obtain ⟨c, at_i, _⟩ := (Option.any_eq_true _ _).mp mem
      have longer := run_shifted (n := 1) opens run
      exact ⟨_, (matches_single rfl).mpr
        ⟨rfl, longer _ (Nat.le_refl _) (Text.shifted_lt at_i (Nat.lt_succ_self i))⟩⟩
  | seq r s _ second =>
      obtain ⟨left, right⟩ := Bool.and_eq_true_iff.mp opens
      cases here with
      | seq front back =>
          have within := front.le_size (by rwa [List.size_toArray])
          rw [List.size_toArray] at within
          obtain ⟨q, last⟩ := second right within back
          exact ⟨q, .seq (matches_shifted left bound front) last⟩
  | empty | look | alt | plus => exact ⟨_, matches_shifted opens bound here⟩

/-- Whether an expression that matches somewhere in one of the two texts matches somewhere in the
other one, as far as its parts and their neighbours show it. -/
def blindToReturns (r : Regex) : Bool :=
  r.opens && (r.follow .both).any fun k => k.low || k.high

theorem isMatch_withReturns (blind : r.blindToReturns = true) :
    r.isMatch (.ofArray (withReturns s).toArray) = r.isMatch (.ofArray s.toArray) := by
  obtain ⟨opens, followed⟩ := Bool.and_eq_true_iff.mp blind
  obtain ⟨k, promised, some_side⟩ := (Option.any_eq_true _ _).mp followed
  rw [Bool.eq_iff_iff, isMatch_iff, isMatch_iff]
  simp only [List.size_toArray]
  constructor
  · rintro ⟨p, q, bound, here⟩
    obtain ⟨x, valid, rfl⟩ := Place.exists_place s bound
    obtain ⟨y, _, _, hold⟩ := carries_of_follow promised valid here
    have reached := hold (· ≤ s.length) (Sides.hold_both valid)
    obtain ⟨j, i, start, here⟩ : ∃ j, Ends s r (· ≤ s.length) j :=
      (Bool.or_eq_true_iff.mp some_side).elim (fun low => ⟨_, reached.1 low⟩)
        fun high => ⟨_, reached.2.1 high⟩
    exact ⟨i, j, start, here⟩
  · rintro ⟨i, j, bound, here⟩
    obtain ⟨q, there⟩ := exists_matches_shifted opens bound here
    exact ⟨shifted s i, q, Text.shifted_le bound, there⟩

end Regex
end Pattern
end FeatureScan
