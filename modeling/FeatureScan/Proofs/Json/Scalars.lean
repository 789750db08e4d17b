import FeatureScan.Json.Reader
import FeatureScan.Json.Writer
import FeatureScan.Proofs.Outcome
import FeatureScan.Proofs.Text.Digits

/-!
Texts, whole numbers and keywords are read back as they were written. A number needs a
following character that cannot belong to it, which is what stands after any value.
-/

namespace FeatureScan
namespace Json

theorem skipSpace_of_not_space {c : Char} (h : isSpace c = false) (rest : List Char) :
    skipSpace (c :: rest) = c :: rest := by
  simp [skipSpace, h]

theorem skipSpace_append {blanks : List Char} (all : ∀ c ∈ blanks, isSpace c = true)
    (rest : List Char) : skipSpace (blanks ++ rest) = skipSpace rest := by
  rw [skipSpace, skipSpace, List.dropWhile_append_of_pos all]

theorem skipSpace_skipSpace (input : List Char) : skipSpace (skipSpace input) = skipSpace input := by
  induction input with
  | nil => rfl
  | cons c rest ih =>
      cases h : isSpace c with
      | true =>
          have step : skipSpace (c :: rest) = skipSpace rest := by simp [skipSpace, h]
          rw [step, ih]
      | false => rw [skipSpace_of_not_space h, skipSpace_of_not_space h]

theorem isSpace_of_mem_lineBreak {layout : Layout} : ∀ c ∈ layout.lineBreak, isSpace c = true := by
  intro c hc
  cases layout with
  | compact => cases hc
  | lines level =>
      rcases List.mem_cons.mp hc with rfl | hc
      · rfl
      · rw [List.eq_of_mem_replicate hc]
        rfl

theorem hexDigit?_hexDigit : ∀ n, n < 16 → Text.hexDigit? (hexDigit n) = some n := by
  decide

theorem hexDigit_mod (n : Nat) : hexDigit n = hexDigit (n % 16) := by
  rw [hexDigit, hexDigit, Nat.mod_mod]

/-- One step of the reader takes what is written for one character. -/
theorem readTextFrom_escapeChar (fuel : Nat) (taken rest : List Char) (c : Char) :
    readTextFrom (fuel + 1) taken (escapeChar c ++ rest) = readTextFrom fuel (c :: taken) rest := by
  unfold escapeChar
  split
  · rfl
  · rfl
  · rfl
  · rfl
  · rfl
  · rfl
  · rfl
  next notQuote notBackslash _ _ _ _ _ =>
    split
    next control =>
      have high := hexDigit?_hexDigit (c.toNat / 16) (by omega)
      have low := hexDigit?_hexDigit (c.toNat % 16) (by omega)
      rw [← hexDigit_mod] at low
      have zero : Text.hexDigit? '0' = some 0 := by decide
      have code : readEscape ('u' :: '0' :: '0' :: hexDigit (c.toNat / 16) :: hexDigit c.toNat ::
          rest) = .ok (c, rest) := by
        have value : ((0 * 16 + 0) * 16 + c.toNat / 16) * 16 + c.toNat % 16 = c.toNat := by omega
        simp only [readEscape, readCode, readFourHex, zero, high, low, value, ok_bind]
        rw [if_neg (by omega), if_pos (by omega), Char.ofNat_toNat]
      simp only [List.cons_append, List.nil_append, readTextFrom, code, ok_bind]
    next plain =>
      simp only [List.cons_append, List.nil_append]
      rw [readTextFrom]
      · rw [if_neg plain]
      · exact notQuote
      · exact notBackslash

theorem readTextFrom_flatMap (s : List Char) {fuel : Nat} (enough : s.length < fuel)
    (taken rest : List Char) :
    readTextFrom fuel taken (s.flatMap escapeChar ++ '"' :: rest) =
      .ok (String.ofList (taken.reverse ++ s), rest) := by
  induction s generalizing fuel taken with
  | nil =>
      obtain ⟨fuel, rfl⟩ := Nat.exists_eq_succ_of_ne_zero (Nat.ne_of_gt enough)
      simp [readTextFrom]
  | cons c s ih =>
      obtain ⟨fuel, rfl⟩ := Nat.exists_eq_succ_of_ne_zero (Nat.ne_of_gt (Nat.zero_lt_of_lt enough))
      rw [List.flatMap_cons, List.append_assoc, readTextFrom_escapeChar,
        ih (Nat.lt_of_succ_lt_succ enough)]
      simp

theorem escapeChar_ne_nil (c : Char) : escapeChar c ≠ [] := by
  unfold escapeChar
  split <;> first | exact List.cons_ne_nil _ _ | (split <;> exact List.cons_ne_nil _ _)

theorem length_le_length_flatMap_escapeChar (s : List Char) :
    s.length ≤ (s.flatMap escapeChar).length := by
  induction s with
  | nil => exact Nat.le_refl _
  | cons c s ih =>
      have pos := List.length_pos_iff.mpr (escapeChar_ne_nil c)
      simp only [List.flatMap_cons, List.length_append, List.length_cons]
      omega

theorem readText_writeText (s : String) (rest : List Char) :
    readText (s.toList.flatMap escapeChar ++ '"' :: rest) = .ok (s, rest) := by
  have enough : s.toList.length <
      (s.toList.flatMap escapeChar ++ '"' :: rest).length + 1 := by
    have := length_le_length_flatMap_escapeChar s.toList
    simp only [List.length_append, List.length_cons]
    omega
  rw [readText, readTextFrom_flatMap s.toList enough]
  simp

theorem writeText_append (s : String) (rest : List Char) :
    writeText s ++ rest = '"' :: (s.toList.flatMap escapeChar ++ '"' :: rest) := by
  simp [writeText]

/-- What may stand after a number: no digit, no point and no exponent. -/
def Stops (rest : List Char) : Prop :=
  ∀ c, rest.head? = some c → c.isDigit = false ∧ c ≠ '.' ∧ c ≠ 'e' ∧ c ≠ 'E'

theorem stops_nil : Stops [] := fun _ h => nomatch h

theorem stops_cons {c : Char} (h : c.isDigit = false ∧ c ≠ '.' ∧ c ≠ 'e' ∧ c ≠ 'E')
    (rest : List Char) : Stops (c :: rest) := by
  intro d hd
  cases hd
  exact h

theorem Stops.noDigit {rest : List Char} (h : Stops rest) : Text.NoDigit rest :=
  fun c hc => (h c hc).1

theorem stops_lineBreak_append {layout : Layout} {rest : List Char} (h : Stops rest) :
    Stops (layout.lineBreak ++ rest) := by
  cases layout with
  | compact => exact h
  | lines level => exact stops_cons (by decide) _

/-- All digits fit if the number that they write does. -/
theorem fitting_eq (digits : List Char) {n : Nat}
    (fits : digits.foldl (fun n c => 10 * n + Text.digitValue c) n ≤ greatestWhole) :
    fitting n digits =
      (digits.foldl (fun n c => 10 * n + Text.digitValue c) n, digits.length) := by
  have grows : ∀ (digits : List Char) (n : Nat),
      n ≤ digits.foldl (fun n c => 10 * n + Text.digitValue c) n := by
    intro digits
    induction digits with
    | nil => exact fun n => Nat.le_refl n
    | cons c digits ih =>
        intro n
        exact Nat.le_trans (by omega) (ih (10 * n + Text.digitValue c))
  induction digits generalizing n with
  | nil => rfl
  | cons c digits ih =>
      rw [List.foldl_cons] at fits ⊢
      have step : ¬ greatestWhole < 10 * n + Text.digitValue c :=
        Nat.not_lt.mpr (Nat.le_trans (grows digits _) fits)
      rw [fitting, if_neg step, ih fits]
      rfl

theorem readNumber_toDigits {n : Nat} (fits : n ≤ greatestWhole) {rest : List Char}
    (stop : Stops rest) : readNumber false (Nat.toDigits 10 n ++ rest) = .ok (.nat n, rest) := by
  have all : ∀ c ∈ Nat.toDigits 10 n, c.isDigit = true := Text.isDigit_of_mem_toDigits
  have taken : digitsOf (Nat.toDigits 10 n ++ rest) = Nat.toDigits 10 n :=
    Text.takeWhile_digits all stop.noDigit
  have left : (Nat.toDigits 10 n ++ rest).dropWhile Char.isDigit = rest :=
    Text.dropWhile_digits all stop.noDigit
  have fitted : fitting 0 (Nat.toDigits 10 n) = (n, (Nat.toDigits 10 n).length) := by
    have value : (Nat.toDigits 10 n).foldl (fun n c => 10 * n + Text.digitValue c) 0 = n :=
      Text.decimalValue_toDigits n
    rw [fitting_eq _ (by rw [value]; exact fits), value]
  unfold readNumber
  split
  next nothing => simp at nothing
  next c tail same =>
    have digit : c.isDigit = true := by
      cases digits : Nat.toDigits 10 n with
      | nil => exact absurd digits Nat.toDigits_ne_nil
      | cons d ds =>
          rw [digits] at same
          cases same
          exact all c (digits ▸ List.mem_cons_self)
    have noZero : ¬ (c = '0' ∧ (tail.head?.any Char.isDigit) = true) := by
      rintro ⟨rfl, more⟩
      rcases Nat.eq_zero_or_pos n with rfl | pos
      · rw [Nat.toDigits_zero] at same
        cases same
        cases rest with
        | nil => cases more
        | cons d ds => simp [(stop d rfl).1] at more
      · apply Text.toDigits_head_ne_zero pos
        have head := congrArg List.head? same
        rwa [List.head?_append, Option.or_of_isSome (by simp)] at head
    rw [if_neg (by simp [digit]), if_neg noZero]
    simp only [taken, left, fitted]
    split
    next => exact absurd rfl (stop '.' rfl).2.1
    next => exact absurd rfl (stop 'e' rfl).2.2.1
    next => exact absurd rfl (stop 'E' rfl).2.2.2
    next => simp

end Json
end FeatureScan
