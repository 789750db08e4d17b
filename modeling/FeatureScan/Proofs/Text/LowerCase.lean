import FeatureScan.Text.CaseMap
import FeatureScan.Proofs.Pattern.Case
import Mathlib.Data.List.TakeWhile

/-!
Lower case of a text within another one. Only the form of a capital sigma depends on what stands
around the text, and not even that if the characters next to the sigma tell whether a word ends
with it.
-/

namespace FeatureScan
namespace Text

/-- The first character that is not passed over. -/
def leading (s : List Char) : Option Char := s.find? fun c => !isCaseIgnorable c

/-- Whether a capital sigma between the two texts becomes a final one. The first text is given
last character first. -/
def endsWord (before rest : List Char) : Bool := startsCased before && !startsCased rest

/-- Whether the form of a capital sigma between the two texts stays the same however they go
on. The final form is ruled out if the second text starts with a character that has a case, or
the first one with a character that has none. Otherwise each must have come to a character that
is not passed over. -/
def settled (before rest : List Char) : Bool :=
  startsCased rest || (leading before).any (!isCased ·) ||
    (leading before).isSome && (leading rest).isSome

/-- Every capital sigma of the text is settled within it, given what stands before the text. -/
def settledAfter : List Char → List Char → Bool
  | _, [] => true
  | before, c :: rest => (c != '\u03a3' || settled before rest) && settledAfter (c :: before) rest

theorem startsCased_eq (s : List Char) : startsCased s = (leading s).any isCased := by
  rw [startsCased, leading, List.find?_not_eq_head?_dropWhile]

theorem startsCased_append (s t : List Char) :
    startsCased (s ++ t) = ((leading s).or (leading t)).any isCased := by
  rw [startsCased_eq, leading, List.find?_append]
  rfl

variable {before rest : List Char}

theorem endsWord_append_of_settled (h : settled before rest = true) (earlier later : List Char) :
    endsWord (before ++ earlier) (rest ++ later) = endsWord before rest := by
  rw [endsWord, endsWord, startsCased_append, startsCased_append, startsCased_eq, startsCased_eq]
  rw [settled, startsCased_eq] at h
  cases first : leading before <;> cases next : leading rest <;> simp_all

theorem leading_capital : leading ['A'] = some 'A' := by decide +kernel

theorem isCased_capital : isCased 'A' = true := by decide +kernel

theorem startsCased_append_capital (s : List Char) :
    startsCased (s ++ ['A']) = (leading s).all isCased := by
  rw [startsCased_append, leading_capital]
  cases leading s with
  | none => exact isCased_capital
  | some c => rfl

/-- A sigma that is not settled changes its form where a capital follows the text or stands
before it. -/
theorem endsWord_changes_of_unsettled (h : settled before rest = false) :
    endsWord before rest = true ∧ endsWord before (rest ++ ['A']) = false ∨
      endsWord before rest = false ∧ endsWord (before ++ ['A']) rest = true := by
  rw [endsWord, endsWord, endsWord, startsCased_append_capital, startsCased_append_capital,
    startsCased_eq, startsCased_eq]
  rw [settled, startsCased_eq] at h
  cases first : leading before <;> cases next : leading rest <;> simp_all

/-- The form of a character between two texts. -/
def lowerForm (before : List Char) (c : Char) (rest : List Char) : List Char :=
  if c = '\u03a3' then if endsWord before rest then ['\u03c2'] else ['\u03c3'] else lowerChar c

/-- Lower case of a text, given what stands before it, last character first, and what follows. -/
def lowerWithin (after : List Char) : List Char → List Char → List Char
  | _, [] => []
  | before, c :: rest => lowerForm before c (rest ++ after) ++ lowerWithin after (c :: before) rest

theorem lowerAfter_cons (before : List Char) (c : Char) (rest : List Char) :
    lowerAfter before (c :: rest) = lowerForm before c rest ++ lowerAfter (c :: before) rest := rfl

theorem lowerAfter_append (before s t : List Char) :
    lowerAfter before (s ++ t) = lowerWithin t before s ++ lowerAfter (s.reverse ++ before) t := by
  induction s generalizing before with
  | nil => rfl
  | cons c s ih =>
      rw [List.cons_append, lowerAfter_cons, ih, lowerWithin, List.append_assoc, List.reverse_cons,
        List.append_assoc, List.singleton_append]

theorem lowerAfter_eq (before s : List Char) : lowerAfter before s = lowerWithin [] before s := by
  have whole := lowerAfter_append before s []
  rwa [List.append_nil, lowerAfter, List.append_nil] at whole

theorem lowerWithin_of_settled {s : List Char} (h : settledAfter before s = true)
    (earlier after : List Char) :
    lowerWithin after (before ++ earlier) s = lowerWithin [] before s := by
  induction s generalizing before with
  | nil => rfl
  | cons c s ih =>
      rw [settledAfter, Bool.and_eq_true] at h
      have form : lowerForm (before ++ earlier) c (s ++ after) = lowerForm before c (s ++ []) := by
        rw [lowerForm, lowerForm, List.append_nil]
        by_cases sigma : c = '\u03a3'
        · have fixed : settled before s = true := by simpa [sigma] using h.1
          rw [endsWord_append_of_settled fixed]
        · rw [if_neg sigma, if_neg sigma]
      rw [lowerWithin, lowerWithin, form, ← List.cons_append, ih h.2]

/-- A text whose sigmas are settled has the same lower case wherever it stands. -/
theorem lowerAfter_infix_of_settled {s : List Char} (h : settledAfter [] s = true)
    (earlier after : List Char) :
    lowerAfter [] s <:+: lowerAfter [] (earlier ++ s ++ after) := by
  rw [List.append_assoc, lowerAfter_append, lowerAfter_append, List.append_nil]
  have same := lowerWithin_of_settled h earlier.reverse after
  rw [List.nil_append] at same
  rw [same, ← lowerAfter_eq]
  exact ⟨lowerWithin (s ++ after) [] earlier, lowerAfter (s.reverse ++ earlier.reverse) after, by
    rw [List.append_assoc]⟩

section

variable {before before' rest rest' after after' : List Char}

theorem lowerForm_sigma (before rest : List Char) :
    lowerForm before '\u03a3' rest = if endsWord before rest then ['\u03c2'] else ['\u03c3'] :=
  if_pos rfl

theorem count_lowerForm_le
    (more : endsWord before rest = true → endsWord before' rest' = true) (c : Char) :
    (lowerForm before c rest).count '\u03c2' ≤ (lowerForm before' c rest').count '\u03c2' ∧
      (lowerForm before' c rest').count '\u03c3' ≤ (lowerForm before c rest).count '\u03c3' := by
  by_cases sigma : c = '\u03a3'
  · subst sigma
    rw [lowerForm_sigma, lowerForm_sigma]
    cases ends : endsWord before rest with
    | false => cases endsWord before' rest' <;> decide
    | true => rw [more ends]; decide
  · rw [lowerForm, lowerForm, if_neg sigma, if_neg sigma]
    exact ⟨Nat.le_refl _, Nat.le_refl _⟩

/-- Where more sigmas end words there are more final ones and fewer of the others. -/
theorem count_lowerWithin_le
    (more : ∀ x y, endsWord (x ++ before) (y ++ after) = true →
      endsWord (x ++ before') (y ++ after') = true) (s x : List Char) :
    (lowerWithin after (x ++ before) s).count '\u03c2' ≤
        (lowerWithin after' (x ++ before') s).count '\u03c2' ∧
      (lowerWithin after' (x ++ before') s).count '\u03c3' ≤
        (lowerWithin after (x ++ before) s).count '\u03c3' := by
  induction s generalizing x with
  | nil => exact ⟨Nat.le_refl _, Nat.le_refl _⟩
  | cons c s ih =>
      obtain ⟨finals, others⟩ := ih (c :: x)
      obtain ⟨form_finals, form_others⟩ := count_lowerForm_le (more x s) c
      simp only [lowerWithin, List.count_append]
      exact ⟨Nat.add_le_add form_finals finals, Nat.add_le_add form_others others⟩

end

theorem endsWord_before_capital (before rest : List Char)
    (ends : endsWord before (rest ++ ['A']) = true) : endsWord before (rest ++ []) = true := by
  rw [endsWord, startsCased_append_capital] at ends
  rw [List.append_nil, endsWord, startsCased_eq rest]
  cases next : leading rest <;> simp_all

theorem endsWord_after_capital (before rest : List Char) (ends : endsWord before rest = true) :
    endsWord (before ++ ['A']) rest = true := by
  rw [endsWord, startsCased_eq before] at ends
  rw [endsWord, startsCased_append_capital]
  cases first : leading before <;> simp_all

theorem count_before_capital_le (before s : List Char) :
    (lowerWithin ['A'] before s).count '\u03c2' ≤ (lowerWithin [] before s).count '\u03c2' :=
  (count_lowerWithin_le (fun x y => endsWord_before_capital (x ++ before) y) s []).1

theorem count_after_capital_le (before s : List Char) :
    (lowerWithin [] (before ++ ['A']) s).count '\u03c3' ≤
      (lowerWithin [] before s).count '\u03c3' := by
  have more (x y : List Char) (ends : endsWord (x ++ before) (y ++ []) = true) :
      endsWord (x ++ (before ++ ['A'])) (y ++ []) = true := by
    rw [← List.append_assoc]
    exact endsWord_after_capital (x ++ before) (y ++ []) ends
  exact (count_lowerWithin_le more s []).2

/-- If a sigma is not settled, one of its two forms becomes less frequent where a capital stands
behind the text or before it. -/
theorem count_lt_of_unsettled {s : List Char} (h : settledAfter before s = false) :
    (lowerWithin ['A'] before s).count '\u03c2' < (lowerWithin [] before s).count '\u03c2' ∨
      (lowerWithin [] (before ++ ['A']) s).count '\u03c3' <
        (lowerWithin [] before s).count '\u03c3' := by
  -- The change of the first such sigma is not made up for, as all sigmas change the same way.
  induction s generalizing before with
  | nil => cases h
  | cons c s ih =>
      simp only [lowerWithin, List.count_append, List.append_nil]
      rw [settledAfter, Bool.and_eq_false_iff] at h
      rcases h with here | later
      · obtain ⟨rfl, unsettled⟩ : c = '\u03a3' ∧ settled before s = false := by simpa using here
        simp only [lowerForm_sigma]
        rcases endsWord_changes_of_unsettled unsettled with ⟨ends, goes_on⟩ | ⟨starts, ends⟩
        · have behind := count_before_capital_le ('\u03a3' :: before) s
          rw [ends, goes_on]
          exact .inl (Nat.add_lt_add_of_lt_of_le (by decide) behind)
        · have behind := count_after_capital_le ('\u03a3' :: before) s
          rw [ends, starts]
          exact .inr (Nat.add_lt_add_of_lt_of_le (by decide) behind)
      · rcases ih later with finals | others
        · have form := (count_lowerForm_le (endsWord_before_capital before s) c).1
          rw [List.append_nil] at form
          exact .inl (Nat.add_lt_add_of_le_of_lt form finals)
        · have form := (count_lowerForm_le (endsWord_after_capital before s) c).2
          exact .inr (Nat.add_lt_add_of_le_of_lt form others)

theorem exists_not_infix_of_unsettled {s : List Char} (h : settledAfter [] s = false) :
    ∃ earlier after, ¬ lowerAfter [] s <:+: lowerAfter [] (earlier ++ s ++ after) := by
  rcases count_lt_of_unsettled h with finals | others
  · refine ⟨[], ['A'], fun within => ?_⟩
    have whole : lowerAfter [] ([] ++ s ++ ['A']) = lowerWithin ['A'] [] s ++ ['a'] :=
      lowerAfter_append [] s ['A']
    have count := within.sublist.count_le '\u03c2'
    rw [whole, List.count_append, lowerAfter_eq] at count
    exact Nat.not_lt_of_le count finals
  · refine ⟨['A'], [], fun within => ?_⟩
    have whole : lowerAfter [] (['A'] ++ s ++ []) = ['a'] ++ lowerWithin [] ['A'] s := by
      rw [List.append_nil, ← lowerAfter_eq]
      rfl
    have count := within.sublist.count_le '\u03c3'
    have none : ['a'].count '\u03c3' = 0 := by decide
    rw [whole, List.count_append, lowerAfter_eq, none, Nat.zero_add] at count
    exact Nat.not_lt_of_le count others

theorem isCased_toLower (c : Char) : isCased c.toLower = isCased c := by
  refine Pattern.forall_char_of_ascii (P := fun c => isCased c.toLower = isCased c) ?_
    (fun c same => by rw [same]) c
  decide +kernel

theorem isCaseIgnorable_toLower (c : Char) : isCaseIgnorable c.toLower = isCaseIgnorable c := by
  refine Pattern.forall_char_of_ascii (P := fun c => isCaseIgnorable c.toLower = isCaseIgnorable c)
    ?_ (fun c same => by rw [same]) c
  decide +kernel

theorem lowerForm_toLower (before : List Char) (c : Char) (rest : List Char) :
    lowerForm before c.toLower rest = lowerForm before c rest := by
  refine Pattern.forall_char_of_ascii
    (P := fun c => lowerForm before c.toLower rest = lowerForm before c rest) ?_
    (fun c same => by rw [same]) c
  have table : ∀ n < 128, (Char.ofNat n).toLower ≠ '\u03a3' ∧ Char.ofNat n ≠ '\u03a3' ∧
      lowerChar (Char.ofNat n).toLower = lowerChar (Char.ofNat n) := by decide +kernel
  intro n low
  obtain ⟨small, capital, same⟩ := table n low
  rw [lowerForm, lowerForm, if_neg small, if_neg capital, same]

theorem leading_map_toLower (s : List Char) :
    leading (s.map Char.toLower) = (leading s).map Char.toLower := by
  rw [leading, leading, List.find?_map]
  simp only [Function.comp_def, isCaseIgnorable_toLower]

theorem startsCased_map_toLower (s : List Char) :
    startsCased (s.map Char.toLower) = startsCased s := by
  rw [startsCased_eq, startsCased_eq, leading_map_toLower, Option.any_map]
  simp only [isCased_toLower]

theorem endsWord_map_toLower (before rest : List Char) :
    endsWord (before.map Char.toLower) (rest.map Char.toLower) = endsWord before rest := by
  rw [endsWord, startsCased_map_toLower, startsCased_map_toLower, endsWord]

theorem lowerForm_map_toLower (before : List Char) (c : Char) (rest : List Char) :
    lowerForm (before.map Char.toLower) c.toLower (rest.map Char.toLower) =
      lowerForm before c rest := by
  rw [lowerForm_toLower, lowerForm, endsWord_map_toLower, lowerForm]

/-- Lower case does not tell the two cases of a letter of ASCII apart. -/
theorem lowerAfter_map_toLower (before s : List Char) :
    lowerAfter (before.map Char.toLower) (s.map Char.toLower) = lowerAfter before s := by
  induction s generalizing before with
  | nil => rfl
  | cons c s ih =>
      rw [List.map_cons, lowerAfter_cons, lowerForm_map_toLower, lowerAfter_cons, ← List.map_cons,
        ih]

theorem settled_map_toLower (before rest : List Char) :
    settled (before.map Char.toLower) (rest.map Char.toLower) = settled before rest := by
  rw [settled, settled, startsCased_map_toLower, leading_map_toLower, leading_map_toLower,
    Option.any_map, Option.isSome_map, Option.isSome_map]
  simp only [isCased_toLower]

theorem toLower_bne_sigma (c : Char) : (c.toLower != '\u03a3') = (c != '\u03a3') := by
  refine Pattern.forall_char_of_ascii
    (P := fun c => (c.toLower != '\u03a3') = (c != '\u03a3')) ?_ (fun c same => by rw [same]) c
  decide +kernel

theorem settledAfter_map_toLower (before s : List Char) :
    settledAfter (before.map Char.toLower) (s.map Char.toLower) = settledAfter before s := by
  induction s generalizing before with
  | nil => rfl
  | cons c s ih =>
      rw [List.map_cons, settledAfter, toLower_bne_sigma, settled_map_toLower, ← List.map_cons, ih,
        settledAfter]

/-- A text whose sigmas are settled is found in lower case wherever it stands up to the case of
letters of ASCII. -/
theorem lowerAfter_infix_of_map_infix {s t : List Char} (h : settledAfter [] s = true)
    (within : s.map Char.toLower <:+: t.map Char.toLower) :
    lowerAfter [] s <:+: lowerAfter [] t := by
  have small (u : List Char) : lowerAfter [] (u.map Char.toLower) = lowerAfter [] u :=
    lowerAfter_map_toLower [] u
  obtain ⟨earlier, after, whole⟩ := within
  rw [← small s, ← small t, ← whole]
  refine lowerAfter_infix_of_settled ?_ earlier after
  exact (settledAfter_map_toLower [] s).trans h

end Text
end FeatureScan
