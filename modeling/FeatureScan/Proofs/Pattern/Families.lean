import FeatureScan.Pattern.CaseFamily

/-!
Families of characters that differ in case only. A letter of ASCII other than `k` and `s` has no
relatives outside ASCII, and a character before the letters has none at all, so that such
characters are told apart by their small letters.
-/

namespace FeatureScan
namespace Pattern

/-- A small letter of ASCII whose family has two members. -/
def PlainLetter (c : Char) : Prop := 97 ≤ c.toNat ∧ c.toNat ≤ 122 ∧ c ≠ 'k' ∧ c ≠ 's'

instance (c : Char) : Decidable (PlainLetter c) := inferInstanceAs (Decidable (_ ∧ _ ∧ _ ∧ _))

/-- A word of plain letters, as it is decided. -/
theorem plain_of_all {w : List Char} (h : (w.all fun c => PlainLetter c) = true) :
    ∀ c ∈ w, PlainLetter c :=
  fun c hc => of_decide_eq_true (List.all_eq_true.mp h c hc)

theorem toLower_of_beyond {d : Char} (beyond : 90 < d.toNat) : d.toLower = d := by
  have large : ¬ (d.val ≥ 'A'.val ∧ d.val ≤ 'Z'.val) := by
    intro capital
    have high : d.toNat ≤ 90 := UInt32.le_iff_toNat_le.mp capital.2
    omega
  exact dif_neg large

/-- What holds of the characters of ASCII, and of a character that is its own small letter,
holds of all characters. -/
theorem forall_char_of_ascii {P : Char → Prop} (ascii : ∀ n < 128, P (.ofNat n))
    (beyond : ∀ c : Char, c.toLower = c → P c) (c : Char) : P c := by
  by_cases low : c.toNat < 128
  · have table := ascii c.toNat low
    rwa [Char.ofNat_toNat] at table
  · exact beyond c (toLower_of_beyond (by omega))

/-- Neither a plain letter nor its capital stands behind the small letters. -/
theorem lt_of_plain {c : Char} (letter : PlainLetter c.toLower) : c.toNat < 123 := by
  refine Nat.lt_of_not_le fun beyond => ?_
  have high := letter.2.1
  rw [toLower_of_beyond (by omega)] at high
  omega

theorem toLower_of_plain {c : Char} (letter : PlainLetter c) : c.toLower = c := by
  have low := letter.1
  exact toLower_of_beyond (by omega)

theorem toLower_of_low_ascii : ∀ n < 128,
    (Char.ofNat n).toNat < 65 ∨ (Char.ofNat n).toLower.toNat < 65 →
      (Char.ofNat n).toLower = .ofNat n := by
  decide +kernel

theorem toLower_of_low (c : Char) : c.toNat < 65 ∨ c.toLower.toNat < 65 → c.toLower = c := by
  refine forall_char_of_ascii
    (P := fun c => c.toNat < 65 ∨ c.toLower.toNat < 65 → c.toLower = c) toLower_of_low_ascii ?_ c
  exact fun c same _ => same

theorem toLower_eq_iff_of_low {c d : Char} (low : c.toNat < 65) : d.toLower = c ↔ d = c := by
  constructor
  · rintro rfl
    exact (toLower_of_low d (.inr low)).symm
  · rintro rfl
    exact toLower_of_low d (.inl low)

theorem family?_eq_some {run : FamilyRun} {code : Nat} {codes : List Nat}
    (h : run.family? code = some codes) :
    ∃ base, run.startsAt base = true ∧ (∃ shift ∈ 0 :: run.shifts, code = base + shift) ∧
      codes = (0 :: run.shifts).map (base + ·) := by
  obtain ⟨shift, mem, found⟩ := List.exists_of_findSome?_eq_some h
  split at found
  next starts =>
    rw [Bool.and_eq_true, decide_eq_true_eq] at starts
    cases found
    exact ⟨code - shift, starts.2, ⟨shift, mem, by omega⟩, rfl⟩
  next => cases found

theorem first_le_of_startsAt {run : FamilyRun} {base : Nat} (starts : run.startsAt base = true) :
    run.first ≤ base := by
  simp only [FamilyRun.startsAt, Bool.and_eq_true, decide_eq_true_eq] at starts
  exact starts.1.1

/-- Beyond ASCII the relatives of a character are those of a run of the table. -/
theorem exists_run_of_mem_caseFamily {c d : Char} (beyond : 128 ≤ d.toNat) (coded : c ≠ '\x00')
    (mem : c ∈ caseFamily d) (different : c ≠ d) :
    ∃ run ∈ familyRuns, ∃ base, run.startsAt base = true ∧
      (∃ shift ∈ 0 :: run.shifts, c.toNat = base + shift) ∧
      ∃ shift ∈ 0 :: run.shifts, d.toNat = base + shift := by
  rw [caseFamily, if_neg (by omega)] at mem
  split at mem
  next codes found =>
    obtain ⟨run, listed, family⟩ := List.exists_of_findSome?_eq_some found
    obtain ⟨base, starts, relative, rfl⟩ := family?_eq_some family
    obtain ⟨code, hcode, rfl⟩ := List.mem_map.mp mem
    obtain ⟨shift, hshift, rfl⟩ := List.mem_map.mp hcode
    refine ⟨run, listed, base, starts, ⟨shift, hshift, ?_⟩, relative⟩
    by_cases valid : (base + shift).isValidChar
    · exact congrArg Char.toNat (dif_pos valid)
    · exact absurd (dif_neg valid) coded
  next => exact absurd (List.mem_singleton.mp mem) different

/-- A family of the table with one of the letters or its capital in it lies within ASCII. -/
theorem family_in_ascii : ∀ run ∈ familyRuns, 123 ≤ run.first ∨
    ∀ base < 123, run.startsAt base = true → ∀ shift ∈ 0 :: run.shifts,
      PlainLetter (Char.ofNat (base + shift)).toLower →
        ∀ other ∈ 0 :: run.shifts, base + other < 128 := by
  decide +kernel

theorem mem_caseFamily_beyond {c d : Char} (letter : PlainLetter c.toLower)
    (beyond : 128 ≤ d.toNat) : c ∉ caseFamily d := by
  intro mem
  have low := lt_of_plain letter
  have coded : c ≠ '\x00' := by
    rintro rfl
    exact absurd letter (by decide)
  have different : c ≠ d := by
    rintro rfl
    omega
  obtain ⟨run, listed, base, starts, ⟨shift, hshift, code⟩, other, hother, code'⟩ :=
    exists_run_of_mem_caseFamily beyond coded mem different
  rcases family_in_ascii run listed with late | inside
  · have first := first_le_of_startsAt starts
    omega
  · rw [← Char.ofNat_toNat c, code] at letter
    have within := inside base (by omega) starts shift hshift letter other hother
    omega

theorem familyRuns_letters : ∀ run ∈ familyRuns, 65 ≤ run.first := by decide +kernel

theorem caseFamily_low_ascii : ∀ n < 128,
    ((caseFamily (.ofNat n)).all fun c => c.toNat < 65 → c = .ofNat n) = true := by
  decide +kernel

/-- A character before the letters has no relative. -/
theorem mem_caseFamily_iff_of_low {c d : Char} (coded : c ≠ '\x00') (low : c.toNat < 65) :
    c ∈ caseFamily d ↔ d = c := by
  by_cases ascii : d.toNat < 128
  · have table := List.all_eq_true.mp (caseFamily_low_ascii d.toNat ascii) c
    rw [Char.ofNat_toNat] at table
    constructor
    · exact fun mem => (of_decide_eq_true (table mem) low).symm
    · rintro rfl
      rw [caseFamily, if_pos ascii]
      exact List.mem_cons_self
  · constructor
    · intro mem
      refine Decidable.byContradiction fun different => ?_
      obtain ⟨run, listed, base, starts, ⟨shift, _, code⟩, _⟩ :=
        exists_run_of_mem_caseFamily (Nat.le_of_not_lt ascii) coded mem (Ne.symm different)
      have first := familyRuns_letters run listed
      have later := first_le_of_startsAt starts
      omega
    · rintro rfl
      omega

theorem caseFamily_toLower_ascii : ∀ n < 128,
    ((caseFamily (.ofNat n)).all (· ∈ caseFamily (Char.ofNat n).toLower) &&
      (caseFamily (Char.ofNat n).toLower).all (· ∈ caseFamily (.ofNat n))) = true := by
  decide +kernel

theorem mem_caseFamily_toLower (c d : Char) :
    d ∈ caseFamily c.toLower ↔ d ∈ caseFamily c := by
  refine forall_char_of_ascii (P := fun c => d ∈ caseFamily c.toLower ↔ d ∈ caseFamily c) ?_
    (fun c same => by rw [same]) c
  intro n low
  have table := caseFamily_toLower_ascii n low
  simp only [Bool.and_eq_true, List.all_eq_true, decide_eq_true_eq] at table
  exact ⟨table.2 d, table.1 d⟩

theorem toLower_eq_of_mem_caseFamily_ascii : ∀ n < 128,
    ((caseFamily (.ofNat n)).all fun c =>
      PlainLetter c.toLower → (Char.ofNat n).toLower = c.toLower) = true := by
  decide +kernel

theorem mem_caseFamily_iff {c d : Char} (letter : PlainLetter c.toLower) :
    c ∈ caseFamily d ↔ d.toLower = c.toLower := by
  have low := lt_of_plain letter
  constructor
  · intro mem
    by_cases ascii : d.toNat < 128
    · have lower := toLower_eq_of_mem_caseFamily_ascii d.toNat ascii
      rw [Char.ofNat_toNat, List.all_eq_true] at lower
      exact of_decide_eq_true (lower c mem) letter
    · exact absurd mem (mem_caseFamily_beyond letter (Nat.le_of_not_lt ascii))
  · intro lower
    have itself : c ∈ caseFamily c := by
      rw [caseFamily, if_pos (by omega)]
      exact List.mem_cons_self
    rwa [← mem_caseFamily_toLower d, lower, mem_caseFamily_toLower]

/-- A letter other than `k` and `s`, small or capital, or a character before the letters. -/
def PlainCharacter (c : Char) : Prop := PlainLetter c.toLower ∨ c ≠ '\x00' ∧ c.toNat < 65

instance (c : Char) : Decidable (PlainCharacter c) := inferInstanceAs (Decidable (_ ∨ _ ∧ _))

def PlainWord (w : List Char) : Prop := ∀ c ∈ w, PlainCharacter c

instance (w : List Char) : Decidable (PlainWord w) := List.decidableBAll PlainCharacter w

theorem mem_caseFamily_iff_toLower {c d : Char} (plain : PlainCharacter c) :
    c ∈ caseFamily d ↔ d.toLower = c.toLower := by
  rcases plain with letter | ⟨coded, low⟩
  · exact mem_caseFamily_iff letter
  · rw [mem_caseFamily_iff_of_low coded low, toLower_of_low c (.inl low), toLower_eq_iff_of_low low]

end Pattern
end FeatureScan
