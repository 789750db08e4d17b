import FeatureScan.Proofs.Json.Grammar
import FeatureScan.Proofs.Outcome

/-!
Texts are read character by character, where two escapes by code may make one character. What is
read is the joined text, and nothing but a text that can be joined is read.
-/

namespace FeatureScan
namespace Json

open Mark (join? ofCode)

variable {rest : List Char}

/-- Characters that need no escape spell themselves. -/
theorem characters_plain {s : List Char} (visible : ∀ c ∈ s, 32 ≤ c.toNat ∧ c ≠ '"' ∧ c ≠ '\\') :
    Characters (s.map .char) s := by
  induction s with
  | nil => exact .nil
  | cons c rest ih =>
      obtain ⟨⟨visible, noQuote, noEscape⟩, others⟩ := List.forall_mem_cons.mp visible
      exact .plain visible noQuote noEscape (ih others)

theorem readFourHex_digits {digits : List Char} {n : Nat} (four : FourHex digits n) :
    readFourHex (digits ++ rest) = .ok (n, rest) := by
  cases four with
  | digits first second third fourth => simp [readFourHex, first, second, third, fourth]

theorem exists_of_readFourHex {input : List Char} {n : Nat}
    (read : readFourHex input = .ok (n, rest)) :
    ∃ digits, FourHex digits n ∧ input = digits ++ rest := by
  unfold readFourHex at read
  split at read
  next a b c d after =>
    split at read
    next first second third fourth =>
      cases read
      exact ⟨[a, b, c, d], .digits first second third fourth, rfl⟩
    next => cases read
  next => cases read

theorem readEscape_letter {e c : Char} (known : (e, c) ∈ Mark.letters) :
    readEscape (e :: rest) = .ok (c, rest) := by
  simp only [Mark.letters, List.mem_cons, Prod.mk.injEq, List.not_mem_nil, or_false] at known
  rcases known with ⟨rfl, rfl⟩ | ⟨rfl, rfl⟩ | ⟨rfl, rfl⟩ | ⟨rfl, rfl⟩ | ⟨rfl, rfl⟩ | ⟨rfl, rfl⟩ |
    ⟨rfl, rfl⟩ | ⟨rfl, rfl⟩ <;> rfl

theorem readEscape_code {digits : List Char} {n : Nat} {c : Char} (four : FourHex digits n)
    (meant : ofCode n = .char c) : readEscape ('u' :: (digits ++ rest)) = .ok (c, rest) := by
  rw [readEscape, readCode, readFourHex_digits four]
  rw [ofCode] at meant
  split at meant
  next => cases meant
  next plain =>
    cases meant
    simp only [ok_bind]
    rw [if_neg (by omega), if_pos (by omega)]

theorem readEscape_pair (rest : List Char) {digits digits' : List Char} {n n' high low : Nat}
    (four : FourHex digits n) (meant : ofCode n = .half high) (four' : FourHex digits' n')
    (meant' : ofCode n' = .half low) (first : high < 0xdc00) (second : 0xdc00 ≤ low) :
    readEscape ('u' :: (digits ++ '\\' :: 'u' :: (digits' ++ rest))) =
      .ok (Char.ofNat ((high - 0xd800) * 0x400 + (low - 0xdc00) + 0x10000), rest) := by
  rw [readEscape, readCode, readFourHex_digits four]
  rw [ofCode] at meant meant'
  split at meant
  next surrogate =>
    split at meant'
    next surrogate' =>
      cases meant
      cases meant'
      simp only [ok_bind]
      rw [if_neg (by omega), if_neg (by omega), readFourHex_digits four']
      simp only [ok_bind]
      rw [if_neg (by omega)]
    next => cases meant'
  next => cases meant

theorem readTextFrom_escape {fuel : Nat} {taken after : List Char} {c : Char}
    (escape : readEscape after = .ok (c, rest)) :
    readTextFrom (fuel + 1) taken ('\\' :: after) = readTextFrom fuel (c :: taken) rest := by
  simp only [readTextFrom, escape, ok_bind]

/-- What stands between the quotes is read as the joined text. -/
theorem readTextFrom_characters {marks : List Mark} {s cs : List Char} (spelled : Characters marks s)
    (joined : join? marks = some cs) {fuel : Nat} (enough : s.length < fuel) (taken : List Char) :
    readTextFrom fuel taken (s ++ '"' :: rest) = .ok (String.ofList (taken.reverse ++ cs), rest) := by
  induction marks using Mark.join?.induct generalizing s cs fuel taken with
  | case1 =>
      obtain ⟨fuel, rfl⟩ := Nat.exists_eq_succ_of_ne_zero (Nat.ne_of_gt (Nat.zero_lt_of_lt enough))
      cases joined
      cases spelled
      simp [readTextFrom]
  | case2 c marks ih =>
      obtain ⟨fuel, rfl⟩ := Nat.exists_eq_succ_of_ne_zero (Nat.ne_of_gt (Nat.zero_lt_of_lt enough))
      obtain ⟨cs, later, rfl⟩ := Option.map_eq_some_iff.mp joined
      have others : ∀ {t : List Char}, Characters marks t → t.length < fuel →
          readTextFrom fuel (c :: taken) (t ++ '"' :: rest) =
            .ok (String.ofList (taken.reverse ++ c :: cs), rest) := by
        intro t spelled enough
        simpa using ih spelled later enough (c :: taken)
      cases spelled with
      | plain visible noQuote noEscape spelled =>
          rw [List.cons_append, readTextFrom, if_neg (by omega)]
          · exact others spelled (Nat.lt_of_succ_lt_succ enough)
          · exact noQuote
          · exact noEscape
      | letter known spelled =>
          simp only [List.length_cons] at enough
          rw [List.cons_append, List.cons_append, readTextFrom_escape (readEscape_letter known)]
          exact others spelled (by omega)
      | code four meant spelled =>
          simp only [List.length_cons, List.length_append] at enough
          rw [List.cons_append, List.cons_append, List.append_assoc,
            readTextFrom_escape (readEscape_code four meant)]
          exact others spelled (by omega)
  | case3 high low marks paired ih =>
      obtain ⟨fuel, rfl⟩ := Nat.exists_eq_succ_of_ne_zero (Nat.ne_of_gt (Nat.zero_lt_of_lt enough))
      rw [join?, if_pos paired] at joined
      obtain ⟨cs, later, rfl⟩ := Option.map_eq_some_iff.mp joined
      cases spelled with
      | code four meant spelled =>
          cases spelled with
          | code four' meant' spelled =>
              have pair {after} := readEscape_pair after four meant four' meant' paired.1 paired.2
              simp only [List.length_cons, List.length_append] at enough
              simp only [List.cons_append, List.append_assoc]
              rw [readTextFrom_escape pair, ih spelled later (by omega)]
              simp
  | case4 high low marks unpaired =>
      rw [join?, if_neg unpaired] at joined
      cases joined
  | case5 n marks alone =>
      rw [join?] at joined
      · cases joined
      · exact alone

/-- The escape, without its backslash, spells these marks, and together they are the character. -/
structure Escaped (c : Char) (front : List Mark) (escape : List Char) : Prop where
  spells : ∀ {marks s}, Characters marks s → Characters (front ++ marks) ('\\' :: (escape ++ s))
  joins : ∀ marks, join? (front ++ marks) = (join? marks).map (c :: ·)

theorem escaped_letter {e c : Char} (known : (e, c) ∈ Mark.letters) : Escaped c [.char c] [e] :=
  ⟨fun spelled => .letter known spelled, fun _ => rfl⟩

theorem escaped_code {digits : List Char} {n : Nat} (four : FourHex digits n)
    (plain : n < 0xd800 ∨ 0xdfff < n) :
    Escaped (Char.ofNat n) [.char (Char.ofNat n)] ('u' :: digits) := by
  have meant : ofCode n = .char (Char.ofNat n) := if_neg (by omega)
  exact ⟨fun spelled => .code four meant spelled, fun _ => rfl⟩

theorem escaped_pair {digits digits' : List Char} {n n' : Nat} (four : FourHex digits n)
    (four' : FourHex digits' n') (high : 0xd800 ≤ n ∧ n < 0xdc00) (low : 0xdc00 ≤ n' ∧ n' ≤ 0xdfff) :
    Escaped (Char.ofNat ((n - 0xd800) * 0x400 + (n' - 0xdc00) + 0x10000)) [.half n, .half n']
      ('u' :: (digits ++ '\\' :: 'u' :: digits')) := by
  have meant : ofCode n = .half n := if_pos (by omega)
  have meant' : ofCode n' = .half n' := if_pos (by omega)
  refine ⟨?_, ?_⟩
  · intro marks s spelled
    have pair := Characters.code four meant (.code four' meant' spelled)
    simpa using pair
  · intro marks
    rw [List.cons_append, List.cons_append, List.nil_append, join?, if_pos ⟨high.2, low.1⟩]

theorem exists_of_readCode {after : List Char} {c : Char} (read : readCode after = .ok (c, rest)) :
    ∃ front digits, after = digits ++ rest ∧ Escaped c front ('u' :: digits) := by
  obtain ⟨⟨n, behind⟩, first, more⟩ := bind_eq_ok.mp read
  obtain ⟨digits, four, rfl⟩ := exists_of_readFourHex first
  dsimp only at more
  split at more
  next => cases more
  next noLow =>
    split at more
    next plain =>
      cases more
      exact ⟨_, digits, rfl, escaped_code four (by omega)⟩
    next high =>
      split at more
      next => cases more
      next => cases more
      next =>
        obtain ⟨⟨n', behind⟩, second, last⟩ := bind_eq_ok.mp more
        obtain ⟨digits', four', rfl⟩ := exists_of_readFourHex second
        dsimp only at last
        split at last
        next => cases last
        next low =>
          simp only [Except.ok.injEq, Prod.mk.injEq] at last
          obtain ⟨rfl, rfl⟩ := last
          exact ⟨_, _, by simp, escaped_pair four four' (by omega) (by omega)⟩
      next => cases more
      next => cases more

theorem exists_of_readEscape {after : List Char} {c : Char}
    (read : readEscape after = .ok (c, rest)) :
    ∃ front escape, after = escape ++ rest ∧ Escaped c front escape := by
  unfold readEscape at read
  split at read
  case h_1 => cases read
  case h_10 after =>
    obtain ⟨front, digits, rfl, escaped⟩ := exists_of_readCode read
    exact ⟨front, 'u' :: digits, rfl, escaped⟩
  case h_11 => cases read
  all_goals
    cases read
    exact ⟨_, [_], rfl, escaped_letter (by decide)⟩

theorem exists_of_readTextFrom {fuel : Nat} {taken input : List Char} {t : String}
    (read : readTextFrom fuel taken input = .ok (t, rest)) :
    ∃ marks s cs, Characters marks s ∧ join? marks = some cs ∧ input = s ++ '"' :: rest ∧
      t = String.ofList (taken.reverse ++ cs) := by
  induction fuel generalizing taken input with
  | zero => cases read
  | succ fuel ih =>
      unfold readTextFrom at read
      split at read
      next => cases read
      next after =>
        cases read
        exact ⟨[], [], [], .nil, rfl, rfl, by simp⟩
      next after =>
        obtain ⟨⟨c, after'⟩, escape, others⟩ := bind_eq_ok.mp read
        obtain ⟨front, written, rfl, escaped⟩ := exists_of_readEscape escape
        obtain ⟨marks, s, cs, spelled, joined, rfl, rfl⟩ := ih others
        refine ⟨front ++ marks, _, c :: cs, escaped.spells spelled, ?_, by simp, by simp⟩
        rw [escaped.joins, joined]
        rfl
      next c after noQuote noEscape =>
        split at read
        next => cases read
        next visible =>
          obtain ⟨marks, s, cs, spelled, joined, rfl, rfl⟩ := ih read
          refine ⟨.char c :: marks, c :: s, c :: cs, ?_, ?_, rfl, by simp⟩
          · exact .plain (by omega) noQuote noEscape spelled
          · rw [join?, joined]
            rfl

/-- A text is read up to its closing quote. -/
theorem readText_eq_ok {input : List Char} {t : String} :
    readText input = .ok (t, rest) ↔ ∃ marks s, Characters marks s ∧ (join? marks).isSome = true ∧
      input = s ++ '"' :: rest ∧ t = Mark.text marks := by
  constructor
  · intro read
    obtain ⟨marks, s, cs, spelled, joined, split, same⟩ := exists_of_readTextFrom read
    refine ⟨marks, s, spelled, by simp [joined], split, ?_⟩
    simpa [Mark.text, joined] using same
  · rintro ⟨marks, s, spelled, joined, rfl, rfl⟩
    obtain ⟨cs, joined⟩ := Option.isSome_iff_exists.mp joined
    have short : s.length < (s ++ '"' :: rest).length + 1 := by
      rw [List.length_append]
      omega
    rw [readText, readTextFrom_characters spelled joined short, Mark.text, joined]
    rfl

end Json
end FeatureScan
