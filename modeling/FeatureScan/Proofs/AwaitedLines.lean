import FeatureScan.Proofs.BuiltinTables
import FeatureScan.Proofs.RejectedWords

/-!
The built-in rule for awaiting outside a function, and the look-ahead that it stands for.
Only the longest run of blanks after the word is tried, and besides it an end right before
a line break in the run. Any other end leaves more of the line than one of these two.
-/

namespace FeatureScan
namespace LineGuard

open Pattern (PlainLetter Regex Haystack)
open Pattern.Regex (letter spells runLength word)

/-- A word of plain letters is mentioned by what has it in small letters. -/
theorem clear_word_iff {w : List Char} (plain : ∀ c ∈ w, PlainLetter c) {text : Array Char} {e : Nat}
    (bound : e ≤ text.size) :
    Clear (word w) text e ↔ ∀ u, u <:+: restOfLine text.toList e → u.map Char.toLower ≠ w := by
  rw [clear_word_iff_not_mentions w bound, Mentions]
  simp only [Pattern.inAnyCase_iff_toLower plain, not_exists, not_and]

def await : List Char := ['a', 'w', 'a', 'i', 't']

def function : List Char := ['f', 'u', 'n', 'c', 't', 'i', 'o', 'n']

theorem plain_await : ∀ c ∈ await, PlainLetter c := Pattern.plain_of_all (by decide)

theorem plain_function : ∀ c ∈ function, PlainLetter c := Pattern.plain_of_all (by decide)

def awaiting : Regex := .seqAll (await.map letter ++ [.plus true (.chars .blank)])

theorem builtin_topLevelAwait :
    Catalog.builtin.get? "top-level-await" =
      some ⟨"top-level-await", .js, [.guarded awaiting (word function)]⟩ := by
  rw [Catalog.get?_builtin]
  decide +kernel

theorem matchAt_awaiting (text : Array Char) (i : Nat) :
    awaiting.matchAt text i =
      if spells await (text.toList.drop i) ∧ 0 < runLength .blank text (i + 5) then
        some (i, i + 5 + runLength .blank text (i + 5))
      else none := by
  rw [Regex.matchAt, awaiting, Pattern.Regex.ends_letters]
  cases spells await (text.toList.drop i) with
  | false => simp
  | true =>
      change (((Regex.plus true (.chars .blank)).ends text (i + 5)).head?.map fun j => (i, j)) = _
      rw [Pattern.Regex.ends_plus_chars, List.head?_reverse, List.getLast?_range']
      by_cases run : runLength .blank text (i + 5) = 0
      · rw [if_pos run, if_neg (by omega)]
        rfl
      · rw [if_neg run, if_pos ⟨rfl, by omega⟩, Option.map_some]
        congr 2
        omega

theorem length_of_await {u : List Char} (same : u.map Char.toLower = await) : u.length = 5 := by
  rw [← List.length_map (f := Char.toLower), same]
  rfl

/-- Where a text is awaited: the word, blanks after it and the rest. -/
structure Awaited (text before word blanks rest : List Char) : Prop where
  whole : text = before ++ word ++ blanks ++ rest
  word_eq : word.map Char.toLower = await
  some_blank : blanks ≠ []
  all_blank : ∀ c ∈ blanks, Text.isBlank c = true

theorem awaited_of_matchAt {text : Array Char} {i j : Nat}
    (h : awaiting.matchAt text i = some (i, j)) :
    ∃ before word blanks, Awaited text.toList before word blanks (text.toList.drop j) := by
  rw [matchAt_awaiting] at h
  split at h
  next found =>
    cases h
    obtain ⟨spelled, run⟩ := found
    obtain ⟨u, rest, here, same⟩ := (Pattern.Regex.spells_iff plain_await _).mp spelled
    have length := length_of_await same
    have behind : text.toList.drop (i + 5) = rest := by
      rw [← List.drop_drop, here, ← length, List.drop_left]
    have whole : text.toList = text.toList.take i ++ u ++ rest := by
      rw [List.append_assoc, ← here, List.take_append_drop]
    unfold runLength at run ⊢
    rw [behind] at run ⊢
    have blanks := List.prefix_iff_eq_take.mp (List.takeWhile_prefix (l := rest) Text.isBlank)
    have parts := List.take_append_drop (rest.takeWhile Text.isBlank).length rest
    rw [← blanks] at parts
    refine ⟨text.toList.take i, u, rest.takeWhile Text.isBlank, ?_, same, ?_, ?_⟩
    · rw [← List.drop_drop, behind]
      refine Eq.trans ?_ (List.append_assoc _ _ _).symm
      exact Eq.trans whole (congrArg _ parts.symm)
    · exact List.length_pos_iff.mp run
    · exact List.all_eq_true.mp List.all_takeWhile
  next => cases h

theorem matchAt_of_awaited {text : Array Char} {before word blanks rest : List Char}
    (h : Awaited text.toList before word blanks rest) :
    awaiting.matchAt text before.length =
      some (before.length,
        before.length + 5 + (blanks.length + (rest.takeWhile Text.isBlank).length)) := by
  obtain ⟨whole, same, some_blank, all_blank⟩ := h
  have length := length_of_await same
  have here : text.toList.drop before.length = word ++ (blanks ++ rest) := by
    rw [whole, List.append_assoc, List.append_assoc, List.drop_left]
  have spelled : spells await (text.toList.drop before.length) = true :=
    (Pattern.Regex.spells_iff plain_await _).mpr ⟨word, blanks ++ rest, here, same⟩
  have run : runLength .blank text (before.length + 5) =
      blanks.length + (rest.takeWhile Text.isBlank).length := by
    have behind : text.toList.drop (before.length + 5) = blanks ++ rest := by
      rw [← List.drop_drop, here, ← length, List.drop_left]
    rw [runLength, behind, ← List.length_append]
    exact congrArg List.length (List.takeWhile_append_of_pos all_blank)
  have positive := List.length_pos_iff.mpr some_blank
  rw [matchAt_awaiting, run, if_pos ⟨spelled, by omega⟩]

theorem toLower_blank_ascii : ∀ n < 128, Text.isBlank (.ofNat n) = true →
    (Char.ofNat n).toLower ≠ 'a' := by
  decide +kernel

theorem toLower_blank {c : Char} (blank : Text.isBlank c = true) : c.toLower ≠ 'a' := by
  by_cases ascii : c.toNat < 128
  · have table := toLower_blank_ascii c.toNat ascii
    rw [Char.ofNat_toNat] at table
    exact table blank
  · rw [Pattern.toLower_of_beyond (by omega)]
    rintro rfl
    exact absurd ascii (by decide)

theorem await_apart {text : List Char} {i d : Nat} (first : spells await (text.drop i) = true)
    (second : spells await (text.drop (i + d)) = true) (after : 0 < d) : 5 ≤ d := by
  have here : ∀ {n}, n < 5 → text[i + n]?.map Char.toLower = await[n]? :=
    Pattern.Regex.getElem?_of_spells plain_await first
  have there : ∀ {n}, n < 5 → text[i + d + n]?.map Char.toLower = await[n]? :=
    Pattern.Regex.getElem?_of_spells plain_await second
  refine Nat.le_of_not_lt fun overlap => ?_
  have cases : d = 1 ∨ d = 2 ∨ d = 3 ∨ d = 4 := by omega
  rcases cases with rfl | rfl | rfl | rfl
  · exact absurd ((here (n := 1) (by decide)).symm.trans (there (n := 0) (by decide))) (by decide)
  · exact absurd ((here (n := 3) (by decide)).symm.trans (there (n := 1) (by decide))) (by decide)
  · exact absurd ((here (n := 3) (by decide)).symm.trans (there (n := 0) (by decide))) (by decide)
  · exact absurd ((here (n := 4) (by decide)).symm.trans (there (n := 0) (by decide))) (by decide)

/-- No match starts inside another one, since no blank is a letter of the word either. -/
theorem end_le_start {text : Array Char} {i j k : Nat} {m : Nat × Nat}
    (first : awaiting.matchAt text i = some (i, j)) (second : awaiting.matchAt text k = some m)
    (after : i < k) : j ≤ k := by
  rw [matchAt_awaiting] at first second
  split at first
  next here =>
    split at second
    next there =>
      cases first
      obtain ⟨d, rfl⟩ := Nat.exists_eq_add_of_le (Nat.le_of_lt after)
      have apart := await_apart here.1 there.1 (by omega)
      refine Nat.le_of_not_lt fun inside => ?_
      have blank := Pattern.Regex.any_getElem?_run (by omega) inside
      obtain ⟨c, at_k, blank⟩ := (Option.any_eq_true _ _).mp blank
      have first_letter := Pattern.Regex.getElem?_of_spells plain_await there.1 (d := 0) (by decide)
      rw [Nat.add_zero, at_k] at first_letter
      exact toLower_blank blank (Option.some.inj first_letter)
    next => cases second
  next => cases first

theorem canEndAtBreak_iff {pattern : Regex} {text : Array Char} {m : Nat × Nat} :
    canEndAtBreak pattern text m = true ↔
      ∃ b, m.1 ≤ b ∧ b < m.2 ∧ text[b]?.any Text.isLineBreak = true ∧
        pattern.matchAt (upTo text b) m.1 = some (m.1, b) := by
  simp only [canEndAtBreak, List.any_eq_true, List.mem_range'_1, Bool.and_eq_true, beq_iff_eq]
  constructor
  · rintro ⟨b, ⟨low, high⟩, lineBreak, here⟩
    exact ⟨b, low, by omega, lineBreak, here⟩
  · rintro ⟨b, low, high, lineBreak, here⟩
    exact ⟨b, ⟨low, by omega⟩, lineBreak, here⟩

theorem Awaited.append {text before word blanks : List Char}
    (h : Awaited text before word blanks []) (rest : List Char) :
    Awaited (text ++ rest) before word blanks rest where
  whole := by rw [h.whole, List.append_nil]
  word_eq := h.word_eq
  some_blank := h.some_blank
  all_blank := h.all_blank

theorem Awaited.extend {text before word blanks more rest : List Char}
    (h : Awaited text before word blanks (more ++ rest)) (blank : ∀ c ∈ more, Text.isBlank c = true) :
    Awaited text before word (blanks ++ more) rest where
  whole := by
    rw [h.whole]
    simp only [List.append_assoc]
  word_eq := h.word_eq
  some_blank := fun empty => h.some_blank (List.append_eq_nil_iff.mp empty).1
  all_blank := fun c hc => (List.mem_append.mp hc).elim (h.all_blank c) (blank c)

theorem restOfLine_of_lineBreak {text : List Char} {b : Nat}
    (lineBreak : text[b]?.any Text.isLineBreak = true) : restOfLine text b = [] := by
  obtain ⟨c, at_b, ends⟩ := (Option.any_eq_true _ _).mp lineBreak
  obtain ⟨bound, rfl⟩ := List.getElem?_eq_some_iff.mp at_b
  rw [restOfLine, List.drop_eq_getElem_cons bound, List.takeWhile_cons, ends]
  rfl

/-- The text is awaited where no `function` follows on the line. -/
def AwaitedOutside (text before word blanks rest : List Char) : Prop :=
  Awaited text before word blanks rest ∧
    ∀ u, u <:+: (rest.takeWhile fun c => !Text.isLineBreak c) → u.map Char.toLower ≠ function

theorem awaitedOutside_of_passes {text : Array Char} {m : Nat × Nat} (mem : m ∈ awaiting.findAll text)
    (passes : canEndAtBreak awaiting text m = true ∨ Clear (word function) text m.2) :
    ∃ before word blanks rest, AwaitedOutside text.toList before word blanks rest := by
  obtain ⟨bound, here⟩ := Regex.mem_findAll mem
  have high : m.2 ≤ text.size := (Regex.matches_of_matchAt here).le_size bound
  rcases passes with ends | clear
  · obtain ⟨b, low, inside, lineBreak, cut⟩ := canEndAtBreak_iff.mp ends
    obtain ⟨before, word, blanks, awaited⟩ := awaited_of_matchAt cut
    rw [toList_upTo, List.drop_of_length_le (by rw [List.length_take]; omega)] at awaited
    have whole := awaited.append (text.toList.drop b)
    rw [List.take_append_drop] at whole
    refine ⟨before, word, blanks, text.toList.drop b, whole, fun u hu same => ?_⟩
    have nothing := restOfLine_of_lineBreak (b := b) (Array.getElem?_toList ▸ lineBreak)
    rw [restOfLine] at nothing
    rw [nothing, List.infix_nil] at hu
    rw [hu] at same
    cases same
  · obtain ⟨before, word, blanks, awaited⟩ := awaited_of_matchAt here
    exact ⟨before, word, blanks, _, awaited, (clear_word_iff plain_function high).mp clear⟩

theorem Awaited.length {text before word blanks rest : List Char}
    (h : Awaited text before word blanks rest) :
    (before ++ word ++ blanks).length = before.length + 5 + blanks.length := by
  rw [List.length_append, List.length_append, length_of_await h.word_eq]

theorem Awaited.drop {text before word blanks rest : List Char}
    (h : Awaited text before word blanks rest) :
    text.drop (before.length + 5 + blanks.length) = rest := by
  rw [h.whole, ← h.length, List.drop_left]

theorem Awaited.cut {text before word blanks rest : List Char}
    (h : Awaited text before word blanks rest) {t : Nat}
    (within : t < (rest.takeWhile Text.isBlank).length) :
    Awaited (text.take (before.length + 5 + (blanks.length + t))) before word
      (blanks ++ rest.take t) [] := by
  have first : text.take (before.length + 5 + (blanks.length + t)) =
      before ++ word ++ blanks ++ (rest.take t ++ []) := by
    rw [h.whole, ← Nat.add_assoc, ← h.length, List.take_length_add_append, List.append_nil]
  have blank : ∀ c ∈ rest.take t, Text.isBlank c = true := by
    have run := List.prefix_iff_eq_take.mp (List.takeWhile_prefix (l := rest) Text.isBlank)
    intro c hc
    have inside : c ∈ rest.takeWhile Text.isBlank := by
      rw [run]
      exact (List.take_sublist_take_left (Nat.le_of_lt within)).mem hc
    exact List.all_eq_true.mp List.all_takeWhile c inside
  exact Awaited.extend ⟨first, h.word_eq, h.some_blank, h.all_blank⟩ blank

/-- Where a line ends within the run of blanks, the match can be cut. -/
theorem canEndAtBreak_of_awaited {text : Array Char} {before word blanks rest : List Char} {t : Nat}
    (h : Awaited text.toList before word blanks rest)
    (ends : rest[t]?.any Text.isLineBreak = true)
    (within : t < (rest.takeWhile Text.isBlank).length) :
    canEndAtBreak awaiting text (before.length,
      before.length + 5 + (blanks.length + (rest.takeWhile Text.isBlank).length)) = true := by
  have le := (List.takeWhile_sublist (l := rest) Text.isBlank).length_le
  refine canEndAtBreak_iff.mpr
    ⟨before.length + 5 + (blanks.length + t), by omega, by omega, ?_, ?_⟩
  · rw [← Array.getElem?_toList, ← Nat.add_assoc, ← List.getElem?_drop, h.drop]
    exact ends
  · have cut := h.cut within
    rw [← toList_upTo] at cut
    rw [matchAt_of_awaited cut, List.length_append, List.length_take, Nat.min_eq_left (by omega)]
    rfl

theorem passes_of_awaitedOutside {text : Array Char} {before word blanks rest : List Char}
    (h : AwaitedOutside text.toList before word blanks rest) :
    ∃ m ∈ awaiting.findAll text,
      canEndAtBreak awaiting text m = true ∨ Clear (Regex.word function) text m.2 := by
  obtain ⟨awaited, free⟩ := h
  have here := matchAt_of_awaited awaited
  have takes := List.length_pos_iff.mpr awaited.some_blank
  have bound : before.length ≤ text.size := by
    have size := congrArg List.length awaited.whole
    rw [List.length_append, awaited.length, Array.length_toList] at size
    omega
  obtain ⟨m, mem, same | inside⟩ := Regex.findAll_complete bound here (by omega)
  · have found := (Regex.mem_findAll mem).2
    rw [same, here] at found
    cases found
    refine ⟨_, mem, ?_⟩
    by_cases cut : (rest.takeWhile fun c => !Text.isLineBreak c).length <
        (rest.takeWhile Text.isBlank).length
    · have le := (List.takeWhile_sublist (l := rest) Text.isBlank).length_le
      exact Or.inl (canEndAtBreak_of_awaited awaited
        (any_getElem?_length_takeWhile (Nat.lt_of_lt_of_le cut le)) cut)
    · refine Or.inr ((clear_word_iff plain_function ?_).mpr fun u hu => ?_)
      · exact (Regex.matches_of_matchAt here).le_size bound
      · -- The rest of the line after the run is a part of what is free of the word.
        have tail : restOfLine text.toList
            (before.length + 5 + (blanks.length + (rest.takeWhile Text.isBlank).length)) =
              (rest.takeWhile fun c => !Text.isLineBreak c).drop
                (rest.takeWhile Text.isBlank).length := by
          rw [restOfLine, ← Nat.add_assoc, ← List.drop_drop, awaited.drop,
            takeWhile_drop (Nat.le_of_not_lt cut)]
        rw [tail] at hu
        exact free u (hu.trans (List.drop_suffix _ _).isInfix)
  · have apart := end_le_start (Regex.mem_findAll mem).2 here inside.1
    omega

/-- The built-in rule matches exactly where a look-ahead from any end of the blanks would:
the word in any case, one or more blanks, and no `function` in any case on what is left of
the line. -/
theorem topLevelAwait_iff_lookAhead (text : String) :
    ((Catalog.builtin.get? "top-level-await").any fun s =>
        s.isMatch (.ofArray text.toList.toArray)) = true ↔
      ∃ before word blanks rest, text.toList = before ++ word ++ blanks ++ rest ∧
        word.map Char.toLower = "await".toList ∧ blanks ≠ [] ∧
        (∀ c ∈ blanks, Text.isBlank c = true) ∧
        ∀ u, u <:+: (rest.takeWhile fun c => !Text.isLineBreak c) →
          u.map Char.toLower ≠ "function".toList := by
  have rule : ((Catalog.builtin.get? "top-level-await").any fun s =>
      s.isMatch (.ofArray text.toList.toArray)) =
        (Rule.guarded awaiting (word function)).isMatch (.ofArray text.toList.toArray) := by
    rw [builtin_topLevelAwait]
    exact Bool.or_false _
  have await_eq : "await".toList = await := by decide
  have function_eq : "function".toList = function := by decide
  rw [rule, isMatch_guarded_iff, await_eq, function_eq]
  constructor
  · rintro ⟨m, mem, passes⟩
    obtain ⟨before, u, blanks, rest, awaited, free⟩ := awaitedOutside_of_passes mem passes
    exact ⟨before, u, blanks, rest, awaited.whole, awaited.word_eq, awaited.some_blank,
      awaited.all_blank, free⟩
  · rintro ⟨before, u, blanks, rest, whole, same, some_blank, all_blank, free⟩
    exact passes_of_awaitedOutside ⟨⟨whole, same, some_blank, all_blank⟩, free⟩

end LineGuard
end FeatureScan
