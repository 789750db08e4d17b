import FeatureScan.Proofs.Pattern.Matches

/-!
Matches in a text that is cut off. Where the text is cut, the next character is gone and the end
of the text has come nearer. An expression whose anchors take that character for the end of the
text has its matches before the cut also in the whole text.
-/

namespace FeatureScan
namespace Pattern

/-- Whether the anchor takes the character `c` ahead of a position for the end of the text. The
line ends that know of carriage returns look behind the position too, and this is left out. -/
def Anchor.takesForEnd (c : Char) : Anchor → Bool
  | .textStart | .lineStart => true
  | .textEnd => false
  | .lineEnd => c == '\n'
  | .anyLineStart => c != '\n'
  | .anyLineEnd => c == '\r'
  | .wordEdge w | .notWordEdge w | .wordStart w | .wordEnd w | .wordStartHalf w
  | .wordEndHalf w => !w.contains c

def Regex.takesForEnd (c : Char) (r : Regex) : Bool := r.all (fun _ => true) (Anchor.takesForEnd c)

variable {text : Array Char} {b i : Nat} {c : Char}

theorem CharSet.contains_single (c d : Char) : (CharSet.single d).contains c = (c == d) := by
  rw [Bool.eq_iff_iff, beq_iff_eq, ← Char.toNat_inj]
  simp only [single, contains, Bool.and_eq_true, decide_eq_true_eq]
  omega

theorem getElem?_cut (before : i < b) : (text.extract 0 b)[i]? = text[i]? := by
  rw [Array.getElem?_extract, Nat.zero_add]
  split
  next => rfl
  next beyond => exact (Array.getElem?_eq_none (by omega)).symm

theorem behind_cut (s : CharSet) (bound : i ≤ b) :
    behind s (text.extract 0 b) i = behind s text i := by
  cases i with
  | zero => rfl
  | succ k => exact congrArg (Option.any s.contains) (getElem?_cut bound)

theorem ahead_cut (s : CharSet) (before : i < b) :
    ahead s (text.extract 0 b) i = ahead s text i :=
  congrArg (Option.any s.contains) (getElem?_cut before)

theorem size_cut (at_b : text[b]? = some c) : (text.extract 0 b).size = b := by
  have within := (Array.getElem?_eq_some_iff.mp at_b).1
  rw [Array.size_extract]
  omega

theorem ahead_cut_end (at_b : text[b]? = some c) (s : CharSet) :
    ahead s (text.extract 0 b) b = false := by
  rw [ahead, Array.getElem?_eq_none (Nat.le_of_eq (size_cut at_b))]
  rfl

theorem ahead_at (at_b : text[b]? = some c) (s : CharSet) : ahead s text b = s.contains c := by
  rw [ahead, at_b]
  rfl

namespace Anchor

/-- Before the cut nothing has changed for an anchor. -/
theorem holds_cut (at_b : text[b]? = some c) (before : i < b) (a : Anchor) :
    a.holds (text.extract 0 b) i = a.holds text i := by
  have within := (Array.getElem?_eq_some_iff.mp at_b).1
  have cut_size : (i == (text.extract 0 b).size) = false :=
    beq_false_of_ne (by rw [size_cut at_b]; omega)
  have whole_size : (i == text.size) = false := beq_false_of_ne (by omega)
  cases a <;>
    simp only [holds, behind_cut _ (Nat.le_of_lt before), ahead_cut _ before, cut_size, whole_size]

/-- Right at the cut an anchor sees the end of the text in place of the next character. -/
theorem holds_of_cut_end (at_b : text[b]? = some c) {a : Anchor} (takes : a.takesForEnd c = true)
    (here : a.holds (text.extract 0 b) b = true) : a.holds text b = true := by
  have within := (Array.getElem?_eq_some_iff.mp at_b).1
  have ended := ahead_cut_end at_b
  have same : ∀ s, behind s (text.extract 0 b) b = behind s text b :=
    fun s => behind_cut s (Nat.le_refl b)
  cases a with
  | textStart => exact here
  | textEnd => cases takes
  | lineStart => simpa only [holds, same] using here
  | lineEnd =>
      have lineFeed : c = '\n' := beq_iff_eq.mp takes
      simp [holds, ahead_at at_b, CharSet.contains_single, lineFeed]
  | anyLineStart =>
      have other : (c == '\n') = false := by simpa [takesForEnd] using takes
      simpa only [holds, same, ended, ahead_at at_b, CharSet.contains_single, other] using here
  | anyLineEnd =>
      have ret : c = '\r' := beq_iff_eq.mp takes
      simp [holds, ahead_at at_b, CharSet.contains_single, ret]
  | wordEdge w | notWordEdge w | wordStart w | wordEnd w | wordStartHalf w | wordEndHalf w =>
      have apart : w.contains c = false := by simpa [takesForEnd] using takes
      simpa only [holds, same, ended, ahead_at at_b, apart] using here

theorem holds_of_cut (at_b : text[b]? = some c) {a : Anchor} (takes : a.takesForEnd c = true)
    (bound : i ≤ b) (here : a.holds (text.extract 0 b) i = true) : a.holds text i = true := by
  rcases Nat.lt_or_eq_of_le bound with before | rfl
  · rwa [holds_cut at_b before] at here
  · exact holds_of_cut_end at_b takes here

end Anchor

namespace Regex

theorem matches_of_cut (at_b : text[b]? = some c) {r : Regex} (takes : r.takesForEnd c = true)
    {j : Nat} (bound : i ≤ b) (here : Matches (text.extract 0 b) r i j) : Matches text r i j := by
  -- A match does not leave the cut text, so each position at which an anchor looks is within it.
  have end_le : ∀ {s : Regex} {k l : Nat}, k ≤ b → Matches (text.extract 0 b) s k l → l ≤ b := by
    intro s k l low found
    have size := size_cut at_b
    rw [← size] at low ⊢
    exact found.le_size low
  induction here with
  | empty => exact .empty _
  | @chars s d k at_k mem =>
      have within := (Array.getElem?_eq_some_iff.mp at_k).1
      rw [size_cut at_b] at within
      exact .chars ((getElem?_cut within).symm.trans at_k) mem
  | look holds => exact .look (Anchor.holds_of_cut at_b takes bound holds)
  | seq first _ ih ih' =>
      obtain ⟨left, right⟩ := Bool.and_eq_true_iff.mp takes
      exact .seq (ih left bound) (ih' right (end_le bound first))
  | altFirst _ ih => exact .altFirst (ih (Bool.and_eq_true_iff.mp takes).1 bound)
  | altSecond _ ih => exact .altSecond (ih (Bool.and_eq_true_iff.mp takes).2 bound)
  | once _ ih => exact .once (ih takes bound)
  | again body _ ih ih' => exact .again (ih takes bound) (ih' takes (end_le bound body))

end Regex
end Pattern
end FeatureScan
