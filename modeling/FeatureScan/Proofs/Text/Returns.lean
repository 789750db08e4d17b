import FeatureScan.Text.Blank

/-!
Texts in which every line feed follows a carriage return. Each character of a text stands in the
longer text too, at a place that is found by counting, and between the two characters of a line
break there is a place that the shorter text does not have.
-/

namespace FeatureScan
namespace Text

/-- The text with a carriage return before each line feed. -/
def withReturns (s : List Char) : List Char :=
  s.flatMap fun c => if c = '\n' then ['\r', '\n'] else [c]

variable {s : List Char} {c : Char} {i : Nat}

theorem withReturns_append (s t : List Char) :
    withReturns (s ++ t) = withReturns s ++ withReturns t := List.flatMap_append

theorem withReturns_cons_lineFeed (s : List Char) :
    withReturns ('\n' :: s) = '\r' :: '\n' :: withReturns s := rfl

theorem withReturns_cons_of_ne (other : c ≠ '\n') (s : List Char) :
    withReturns (c :: s) = c :: withReturns s := by
  rw [withReturns, List.flatMap_cons, if_neg other]
  rfl

theorem withReturns_eq_self (single : '\n' ∉ s) : withReturns s = s := by
  induction s with
  | nil => rfl
  | cons c s ih =>
      rw [List.mem_cons, not_or] at single
      rw [withReturns_cons_of_ne (Ne.symm single.1), ih single.2]

theorem withReturns_eq_nil : withReturns s = [] ↔ s = [] := by
  cases s with
  | nil => exact iff_of_true rfl rfl
  | cons c s =>
      by_cases feed : c = '\n'
      · simp [feed, withReturns_cons_lineFeed]
      · simp [withReturns_cons_of_ne feed]

/-- The parts of the longer text come from parts of the shorter one, or a line break is cut
through. -/
def CutsInto (s u v : List Char) : Prop :=
  (∃ a b, s = a ++ b ∧ u = withReturns a ∧ v = withReturns b) ∨
    ∃ a b, s = a ++ '\n' :: b ∧ u = withReturns a ++ ['\r'] ∧ v = '\n' :: withReturns b

theorem CutsInto.cons_of_ne {u v : List Char} (cut : CutsInto s u v) (other : c ≠ '\n') :
    CutsInto (c :: s) (c :: u) v := by
  rcases cut with ⟨a, b, rfl, rfl, rfl⟩ | ⟨a, b, rfl, rfl, rfl⟩
  · exact .inl ⟨c :: a, b, rfl, (withReturns_cons_of_ne other a).symm, rfl⟩
  · refine .inr ⟨c :: a, b, rfl, ?_, rfl⟩
    rw [withReturns_cons_of_ne other, List.cons_append]

theorem CutsInto.cons_lineFeed {u v : List Char} (cut : CutsInto s u v) :
    CutsInto ('\n' :: s) ('\r' :: '\n' :: u) v := by
  rcases cut with ⟨a, b, rfl, rfl, rfl⟩ | ⟨a, b, rfl, rfl, rfl⟩
  · exact .inl ⟨'\n' :: a, b, rfl, rfl, rfl⟩
  · exact .inr ⟨'\n' :: a, b, rfl, rfl, rfl⟩

theorem cutsInto_of_append {u v : List Char} (whole : withReturns s = u ++ v) : CutsInto s u v := by
  induction s generalizing u with
  | nil =>
      obtain ⟨rfl, rfl⟩ := List.append_eq_nil_iff.mp whole.symm
      exact .inl ⟨[], [], rfl, rfl, rfl⟩
  | cons c s ih =>
      cases u with
      | nil => exact .inl ⟨[], c :: s, rfl, rfl, whole.symm⟩
      | cons d u =>
          by_cases feed : c = '\n'
          · rw [feed, withReturns_cons_lineFeed, List.cons_append, List.cons.injEq] at whole
            obtain ⟨rfl, rest⟩ := whole
            cases u with
            | nil => exact .inr ⟨[], s, congrArg (· :: s) feed, rfl, rest.symm⟩
            | cons d u =>
                rw [List.cons_append, List.cons.injEq] at rest
                obtain ⟨rfl, rest⟩ := rest
                exact feed ▸ (ih rest).cons_lineFeed
          · rw [withReturns_cons_of_ne feed, List.cons_append, List.cons.injEq] at whole
            obtain ⟨rfl, rest⟩ := whole
            exact (ih rest).cons_of_ne feed

/-- A word without line breaks is whole in the shorter text too. -/
theorem exists_around_word {before word after : List Char}
    (whole : withReturns s = before ++ (word ++ after)) (some_char : word ≠ [])
    (plain : ∀ c ∈ word, c ≠ '\r' ∧ c ≠ '\n') :
    ∃ a b, s = a ++ (word ++ b) ∧ before = withReturns a ∧ withReturns b = after := by
  rcases cutsInto_of_append whole with ⟨a, t, rfl, rfl, rest⟩ | ⟨a, t, _, _, rest⟩
  · rcases cutsInto_of_append rest.symm with ⟨w, b, rfl, rfl, rfl⟩ | ⟨w, b, _, rfl, _⟩
    · have single : '\n' ∉ w := by
        intro mem
        obtain ⟨u, v, rfl⟩ := List.append_of_mem mem
        exact (plain '\n' (by simp [withReturns_append, withReturns_cons_lineFeed])).2 rfl
      rw [withReturns_eq_self single]
      exact ⟨a, b, rfl, rfl, rfl⟩
    · exact absurd rfl (plain '\r' (by simp)).1
  · obtain ⟨c, word, rfl⟩ := List.exists_cons_of_ne_nil some_char
    have first : c = '\n' := (List.cons.inj rest).1
    exact absurd first (plain c List.mem_cons_self).2

/-- What holds of both characters of a line break holds of all characters of the one text if it
does of those of the other. -/
theorem forall_mem_withReturns {P : Char → Prop} (ret : P '\r') (feed : P '\n') :
    (∀ c ∈ withReturns s, P c) ↔ ∀ c ∈ s, P c := by
  induction s with
  | nil => exact Iff.rfl
  | cons c s ih =>
      by_cases same : c = '\n'
      · rw [same, withReturns_cons_lineFeed]
        simp [ih, ret, feed]
      · rw [withReturns_cons_of_ne same, List.forall_mem_cons, List.forall_mem_cons, ih]

/-- The position in the longer text. -/
def shifted (s : List Char) (i : Nat) : Nat := (withReturns (s.take i)).length

theorem shifted_length (s : List Char) : shifted s s.length = (withReturns s).length := by
  rw [shifted, List.take_length]

/-- The longer text from a position on. -/
theorem drop_withReturns (s : List Char) (i : Nat) :
    (withReturns s).drop (shifted s i) = withReturns (s.drop i) := by
  have whole := congrArg withReturns (List.take_append_drop i s)
  rw [withReturns_append] at whole
  rw [shifted, ← whole, List.drop_left]

theorem shifted_succ (at_i : s[i]? = some c) :
    shifted s (i + 1) = shifted s i + if c = '\n' then 2 else 1 := by
  rw [shifted, List.take_add_one, at_i, withReturns_append, List.length_append]
  by_cases feed : c = '\n'
  · rw [if_pos feed, feed]
    rfl
  · rw [if_neg feed, Option.toList_some, withReturns_cons_of_ne feed]
    rfl

theorem shifted_mono {j : Nat} (h : i ≤ j) : shifted s i ≤ shifted s j := by
  obtain ⟨n, rfl⟩ := Nat.exists_eq_add_of_le h
  rw [shifted, shifted, List.take_add, withReturns_append, List.length_append]
  exact Nat.le_add_right _ _

theorem shifted_le (bound : i ≤ s.length) : shifted s i ≤ (withReturns s).length :=
  shifted_length s ▸ shifted_mono bound

theorem shifted_lt {j : Nat} (at_i : s[i]? = some c) (h : i < j) : shifted s i < shifted s j := by
  have next := shifted_mono (s := s) h
  rw [Nat.succ_eq_add_one, shifted_succ at_i] at next
  split at next <;> omega

theorem drop_eq_cons (at_i : s[i]? = some c) : s.drop i = c :: s.drop (i + 1) := by
  obtain ⟨bound, rfl⟩ := List.getElem?_eq_some_iff.mp at_i
  exact List.drop_eq_getElem_cons bound

theorem getElem?_shifted_add (s : List Char) (i k : Nat) :
    (withReturns s)[shifted s i + k]? = (withReturns (s.drop i))[k]? := by
  rw [← drop_withReturns, List.getElem?_drop]

theorem getElem?_shifted_of_ne (at_i : s[i]? = some c) (other : c ≠ '\n') :
    (withReturns s)[shifted s i]? = some c := by
  have here := getElem?_shifted_add s i 0
  rw [drop_eq_cons at_i, withReturns_cons_of_ne other] at here
  exact here

theorem getElem?_shifted_lineFeed (at_i : s[i]? = some '\n') :
    (withReturns s)[shifted s i]? = some '\r' ∧ (withReturns s)[shifted s i + 1]? = some '\n' := by
  have here := getElem?_shifted_add s i
  rw [drop_eq_cons at_i, withReturns_cons_lineFeed] at here
  exact ⟨here 0, here 1⟩

theorem getElem?_shifted_none (at_i : s[i]? = none) : (withReturns s)[shifted s i]? = none := by
  have here := getElem?_shifted_add s i 0
  rw [List.drop_eq_nil_of_le (List.getElem?_eq_none_iff.mp at_i)] at here
  exact here

/-- A place in the longer text: that of a position of the shorter one, or the middle of the line
break that begins at a position. -/
inductive Place where
  | here (i : Nat)
  | midBreak (i : Nat)

namespace Place

def Valid (s : List Char) : Place → Prop
  | here i => i ≤ s.length
  | midBreak i => s[i]? = some '\n'

/-- The position of the place in the longer text. -/
def position (s : List Char) : Place → Nat
  | here i => shifted s i
  | midBreak i => shifted s i + 1

/-- The position of the shorter text that is not behind the place. -/
def low : Place → Nat
  | here i | midBreak i => i

/-- The position of the shorter text that is not before the place. -/
def high : Place → Nat
  | here i => i
  | midBreak i => i + 1

theorem low_le_high (x : Place) : x.low ≤ x.high := by
  cases x <;> simp [low, high]

/-- The places before and behind a character of the longer text. -/
inductive Step (text : List Char) : Place → Char → Place → Prop where
  | other {k d} (at_k : text[k]? = some d) (plain : d ≠ '\n') :
      Step text (.here k) d (.here (k + 1))
  | ret {k} (at_k : text[k]? = some '\n') : Step text (.here k) '\r' (.midBreak k)
  | feed {k} (at_k : text[k]? = some '\n') : Step text (.midBreak k) '\n' (.here (k + 1))

theorem Step.valid {x y : Place} (step : Step s x c y) : y.Valid s := by
  cases step with
  | other at_k | feed at_k => exact (List.getElem?_eq_some_iff.mp at_k).1
  | ret at_k => exact at_k

theorem Step.position {x y : Place} (step : Step s x c y) : y.position s = x.position s + 1 := by
  cases step with
  | other at_k plain => rw [Place.position, shifted_succ at_k, if_neg plain, Place.position]
  | feed at_k => rw [Place.position, shifted_succ at_k, if_pos rfl, Place.position]
  | ret => rfl

theorem exists_step {x : Place} (valid : x.Valid s)
    (there : (withReturns s)[x.position s]? = some c) : ∃ y, Step s x c y := by
  cases x with
  | here i =>
      cases at_i : s[i]? with
      | none => cases (getElem?_shifted_none at_i).symm.trans there
      | some d =>
          by_cases feed : d = '\n'
          · subst feed
            cases (getElem?_shifted_lineFeed at_i).1.symm.trans there
            exact ⟨.midBreak i, .ret at_i⟩
          · cases (getElem?_shifted_of_ne at_i feed).symm.trans there
            exact ⟨.here (i + 1), .other at_i feed⟩
  | midBreak i =>
      cases (getElem?_shifted_lineFeed valid).2.symm.trans there
      exact ⟨.here (i + 1), .feed valid⟩

/-- Every position of the longer text is that of a place. -/
theorem exists_place (s : List Char) {k : Nat} (bound : k ≤ (withReturns s).length) :
    ∃ x : Place, x.Valid s ∧ x.position s = k := by
  induction k with
  | zero => exact ⟨.here 0, Nat.zero_le _, rfl⟩
  | succ k ih =>
      obtain ⟨x, valid, rfl⟩ := ih (Nat.le_of_succ_le bound)
      obtain ⟨y, step⟩ := exists_step valid (List.getElem?_eq_getElem bound)
      exact ⟨y, step.valid, step.position⟩

end Place
end Text
end FeatureScan
