import FeatureScan.Pattern.Regex

/-!
Expressions that no text of blanks can match. Somewhere each match has to take a character of a
set without blanks; which sets these are is tried with the blank characters one by one.
-/

namespace FeatureScan
namespace Text

/-- The blank characters. -/
def blanks : List Char :=
  (List.range' 0x09 5 ++ [0x20, 0x85, 0xa0, 0x1680] ++ List.range' 0x2000 11 ++
    [0x2028, 0x2029, 0x202f, 0x205f, 0x3000]).map Char.ofNat

theorem mem_blanks {c : Char} (blank : isBlank c = true) : c ∈ blanks := by
  have listed : c.toNat ∈ List.range' 0x09 5 ++ [0x20, 0x85, 0xa0, 0x1680] ++
      List.range' 0x2000 11 ++ [0x2028, 0x2029, 0x202f, 0x205f, 0x3000] := by
    simp only [isBlank, Bool.or_eq_true, Bool.and_eq_true, decide_eq_true_eq, beq_iff_eq] at blank
    simp only [List.mem_append, List.mem_range'_1, List.mem_cons, List.not_mem_nil, or_false]
    omega
  rw [← Char.ofNat_toNat c]
  exact List.mem_map_of_mem listed

end Text

namespace Pattern

theorem caseFamily_blanks : (Text.blanks.all fun c => (caseFamily c).all (· == c)) = true := by
  decide +kernel

/-- No blank differs from another character in case only. -/
theorem eq_of_mem_caseFamily_blank {c d : Char} (blank : Text.isBlank c = true)
    (mem : d ∈ caseFamily c) : d = c :=
  beq_iff_eq.mp
    (List.all_eq_true.mp (List.all_eq_true.mp caseFamily_blanks c (Text.mem_blanks blank)) d mem)

/-- Whether no blank is in the set. -/
def CharSet.solid : CharSet → Bool
  | .caseless a => a.solid
  | s => Text.blanks.all fun c => !s.contains c

theorem CharSet.contains_of_solid {s : CharSet} (solid : s.solid = true) {c : Char}
    (blank : Text.isBlank c = true) : s.contains c = false := by
  induction s with
  | caseless a ih =>
      have apart : a.contains c = false := ih solid
      rw [contains, List.any_eq_false]
      intro d mem
      rw [eq_of_mem_caseFamily_blank blank mem, apart]
      exact Bool.false_ne_true
  | empty | range | blank | word | digit | union | inter | compl | asciiCaseless =>
      have tried := List.all_eq_true.mp solid c (Text.mem_blanks blank)
      exact (Bool.not_eq_true' _).mp tried

namespace Regex

/-- Whether every match takes a character that is not blank, as far as the sets of the expression
show it. -/
def takesSolid : Regex → Bool
  | .empty | .look _ => false
  | .chars s => s.solid
  | .seq r s => r.takesSolid || s.takesSolid
  | .alt r s => r.takesSolid && s.takesSolid
  | .plus _ r => r.takesSolid

theorem exists_solid_of_matches {text : Array Char} {r : Regex} (takes : r.takesSolid = true)
    {i j : Nat} (here : Matches text r i j) : ∃ c ∈ text, Text.isBlank c = false := by
  induction here with
  | empty | look => cases takes
  | @chars s c i at_i mem =>
      refine ⟨c, Array.mem_of_getElem? at_i, Bool.eq_false_iff.mpr fun blank => ?_⟩
      rw [CharSet.contains_of_solid takes blank] at mem
      cases mem
  | seq _ _ ih ih' => exact (Bool.or_eq_true_iff.mp takes).elim ih ih'
  | altFirst _ ih => exact ih (Bool.and_eq_true_iff.mp takes).1
  | altSecond _ ih => exact ih (Bool.and_eq_true_iff.mp takes).2
  | once _ ih | again _ _ ih _ => exact ih takes

end Regex
end Pattern
end FeatureScan
