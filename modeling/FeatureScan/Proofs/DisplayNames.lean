import FeatureScan.Documentation
import FeatureScan.Proofs.Text.LowerCase
import FeatureScan.Proofs.Text.Lines

/-!
Display names of identifiers in small letters, digits and hyphens. The capitals of such a name
stand at the beginning of its words and the spaces between them, and its identifier has neither,
so that both can be taken back.
-/

namespace FeatureScan

namespace Text

theorem map_intercalate (f : Char → Char) (sep : List Char) (words : List (List Char)) :
    (sep.intercalate words).map f = (sep.map f).intercalate (words.map (List.map f)) := by
  induction words with
  | nil => rfl
  | cons word rest ih =>
      cases rest with
      | nil => simp
      | cons next rest =>
          rw [List.intercalate_cons_cons, List.map_append, List.map_append, ih, List.map_cons,
            List.map_cons, List.map_cons, List.intercalate_cons_cons]

/-- Pieces joined by another mark than the one they were split at. -/
theorem intercalate_pieces_eq_map (mark other : Char) (s : List Char) :
    [other].intercalate (pieces (· == mark) s) = s.map fun c => if c = mark then other else c := by
  induction s with
  | nil => rfl
  | cons c rest ih =>
      cases split : pieces (· == mark) rest with
      | nil => exact absurd split (pieces_ne_nil rest)
      | cons piece others =>
          rw [split] at ih
          simp only [pieces, split, beq_iff_eq, List.map_cons]
          split
          next => rw [List.intercalate_cons_cons, ih]; rfl
          next =>
            rw [← ih]
            exact List.intercalate_cons_cons_left

/-- A text of characters that are their own small letters is its own lower case. -/
theorem lowerAfter_of_small {s : List Char} (small : ∀ c ∈ s, c ≠ '\u03a3' ∧ lowerChar c = [c])
    (before : List Char) : lowerAfter before s = s := by
  induction s generalizing before with
  | nil => rfl
  | cons c rest ih =>
      obtain ⟨⟨plain, same⟩, others⟩ := List.forall_mem_cons.mp small
      rw [lowerAfter_cons, lowerForm, if_neg plain, same, ih others]
      rfl

end Text

namespace Documentation

open Text (capitalized lower lowerAfter pieces)

/-- A character that the words of an identifier are made of. -/
def IsWordChar (c : Char) : Prop := c.isLower = true ∨ c.isDigit = true

instance (c : Char) : Decidable (IsWordChar c) := inferInstanceAs (Decidable (_ ∨ _))

/-- Words of small letters of ASCII and digits with hyphens between them. A word may be empty. -/
def IsKebab (id : String) : Prop := ∀ c ∈ id.toList, IsWordChar c ∨ c = '-'

instance (id : String) : Decidable (IsKebab id) :=
  List.decidableBAll (fun c => IsWordChar c ∨ c = '-') id.toList

/-- The name in small letters, with hyphens for spaces. -/
def hyphened (name : String) : String :=
  String.ofList ((lower name).toList.map fun c => if c = ' ' then '-' else c)

theorem wordChar_ascii : ∀ n < 128, IsWordChar (.ofNat n) →
    Char.ofNat n ≠ ' ' ∧ Text.lowerChar (.ofNat n) = [.ofNat n] ∧
      (Char.ofNat n).toLower = .ofNat n ∧ (Char.ofNat n).toUpper.toLower = .ofNat n := by
  decide +kernel

theorem code_of_wordChar {c : Char} (word : IsWordChar c) : c.toNat < 128 := by
  rcases word with small | digit
  · have high : c.toNat ≤ 122 :=
      UInt32.le_iff_toNat_le.mp (of_decide_eq_true (Bool.and_eq_true_iff.mp small).2)
    omega
  · have high : c.toNat ≤ 57 :=
      UInt32.le_iff_toNat_le.mp (of_decide_eq_true (Bool.and_eq_true_iff.mp digit).2)
    omega

theorem wordChar_small {c : Char} (word : IsWordChar c) :
    c ≠ ' ' ∧ Text.lowerChar c = [c] ∧ c.toLower = c ∧ c.toUpper.toLower = c := by
  have table := wordChar_ascii c.toNat (code_of_wordChar word)
  rw [Char.ofNat_toNat] at table
  exact table word

/-- Small letters undo the capital at the beginning of a word. -/
theorem toLower_capitalized {word : List Char} (all : ∀ c ∈ word, IsWordChar c) :
    (capitalized word).map Char.toLower = word := by
  cases word with
  | nil => rfl
  | cons c rest =>
      obtain ⟨first, others⟩ := List.forall_mem_cons.mp all
      have capital : Text.upperChar c = [c.toUpper] := if_pos (code_of_wordChar first)
      have same : rest.map Char.toLower = rest :=
        (List.map_congr_left fun d mem => (wordChar_small (others d mem)).2.2.1).trans
          (List.map_id rest)
      rw [capitalized, capital, List.singleton_append, List.map_cons, same,
        (wordChar_small first).2.2.2]

variable {id : String}

theorem isWordChar_of_mem_pieces (kebab : IsKebab id) {word : List Char}
    (listed : word ∈ pieces (· == '-') id.toList) : ∀ c ∈ word, IsWordChar c := by
  intro c mem
  have inside : c ∈ id.toList :=
    (Text.sublist_flatten_pieces _ _).subset (List.mem_flatten_of_mem listed mem)
  refine (kebab c inside).resolve_right fun mark => ?_
  have unmarked := Text.unmarked_of_mem_pieces listed c mem
  rw [mark] at unmarked
  cases unmarked

/-- In small letters a display name is its identifier with spaces for hyphens. -/
theorem toLower_displayName (kebab : IsKebab id) :
    (displayName id).toList.map Char.toLower =
      id.toList.map fun c => if c = '-' then ' ' else c := by
  have words : ((pieces (· == '-') id.toList).map capitalized).map (List.map Char.toLower) =
      pieces (· == '-') id.toList := by
    rw [List.map_map]
    exact (List.map_congr_left fun word listed =>
      toLower_capitalized (isWordChar_of_mem_pieces kebab listed)).trans (List.map_id _)
  rw [← Text.intercalate_pieces_eq_map, ← words, displayName, String.toList_ofList]
  exact Text.map_intercalate Char.toLower [' '] _

theorem lower_displayName (kebab : IsKebab id) :
    (lower (displayName id)).toList = id.toList.map fun c => if c = '-' then ' ' else c := by
  rw [lower, String.toList_ofList, ← Text.lowerAfter_map_toLower, toLower_displayName kebab]
  refine Text.lowerAfter_of_small (fun c mem => ?_) _
  obtain ⟨d, inside, rfl⟩ := List.mem_map.mp mem
  split
  next => decide
  next other =>
    have word := (kebab d inside).resolve_right other
    refine ⟨?_, (wordChar_small word).2.1⟩
    rintro rfl
    exact absurd (code_of_wordChar word) (by decide)

theorem hyphened_displayName (kebab : IsKebab id) : hyphened (displayName id) = id := by
  rw [hyphened, lower_displayName kebab, List.map_map, ← String.toList_inj, String.toList_ofList]
  refine (List.map_congr_left fun c inside => ?_).trans (List.map_id _)
  by_cases mark : c = '-'
  · simp [mark]
  · have word := (kebab c inside).resolve_right mark
    simp [mark, (wordChar_small word).1]

/-- An identifier in small letters, digits and hyphens is got back from its display name, which
therefore no other such identifier has. -/
theorem displayName_undone {id : String} (kebab : IsKebab id) :
    hyphened (displayName id) = id ∧
      ∀ other, IsKebab other → displayName other = displayName id → other = id := by
  refine ⟨hyphened_displayName kebab, fun other kebab' same => ?_⟩
  rw [← hyphened_displayName kebab', same, hyphened_displayName kebab]

/-- Empty words and words that begin with a digit come back too. -/
theorem displayName_of_empty_words :
    IsKebab "-css--2x-" ∧ displayName "-css--2x-" = " Css  2x " ∧
      hyphened " Css  2x " = "-css--2x-" ∧
      ∀ other, IsKebab other → displayName other = " Css  2x " → other = "-css--2x-" := by
  have kebab : IsKebab "-css--2x-" := by decide
  have name : displayName "-css--2x-" = " Css  2x " := by decide
  have undone := displayName_undone kebab
  rw [name] at undone
  exact ⟨kebab, name, undone⟩

end Documentation
end FeatureScan
