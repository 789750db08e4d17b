import FeatureScan.Proofs.Pattern.Reach
import FeatureScan.Proofs.Pattern.Search
import FeatureScan.Proofs.Pattern.Words

/-!
Expressions that do not tell the two cases of an ASCII letter apart. On texts that are the
same in small letters they have the same matches, preferred in the same order.
-/

namespace FeatureScan
namespace Pattern

/-- Whether the set treats every character as its small letter, as far as this can be seen
from how the set is put together or by trying ASCII. -/
def CharSet.caseBlind : CharSet → Bool
  | .caseless _ | .asciiCaseless _ => true
  | .compl a => a.caseBlind
  | s => (List.range 128).all fun n => s.contains (.ofNat n) == s.contains (Char.ofNat n).toLower

theorem swapAsciiCase_ascii : ∀ n < 128, (Char.ofNat n).toLower = .ofNat n ∨
    (Char.ofNat n).toLower = swapAsciiCase (.ofNat n) ∧
      swapAsciiCase (Char.ofNat n).toLower = .ofNat n := by
  decide +kernel

theorem contains_asciiCaseless_toLower (a : CharSet) (c : Char) :
    (CharSet.asciiCaseless a).contains c.toLower = (CharSet.asciiCaseless a).contains c := by
  refine forall_char_of_ascii
    (P := fun c => (CharSet.asciiCaseless a).contains c.toLower = (CharSet.asciiCaseless a).contains c)
    ?_ (fun c same => by rw [same]) c
  intro n low
  rcases swapAsciiCase_ascii n low with same | ⟨swapped, back⟩
  · rw [same]
  · rw [CharSet.contains, CharSet.contains, back, ← swapped, Bool.or_comm]

theorem contains_toLower_of_tried {s : CharSet}
    (tried : ((List.range 128).all fun n =>
      s.contains (.ofNat n) == s.contains (Char.ofNat n).toLower) = true) (c : Char) :
    s.contains c.toLower = s.contains c := by
  refine forall_char_of_ascii (P := fun c => s.contains c.toLower = s.contains c) ?_
    (fun c same => by rw [same]) c
  intro n low
  exact (beq_iff_eq.mp (List.all_eq_true.mp tried n (List.mem_range.mpr low))).symm

theorem CharSet.contains_toLower {s : CharSet} (blind : s.caseBlind = true) (c : Char) :
    s.contains c.toLower = s.contains c := by
  induction s with
  | caseless a =>
      rw [Bool.eq_iff_iff, contains, contains, List.any_eq_true, List.any_eq_true]
      simp only [mem_caseFamily_toLower]
  | asciiCaseless a => exact contains_asciiCaseless_toLower a c
  | compl a ih => rw [contains, contains, ih blind]
  | empty | range | blank | word | digit | union | inter => exact contains_toLower_of_tried blind c

def Anchor.caseBlind : Anchor → Bool
  | .wordEdge w | .notWordEdge w | .wordStart w | .wordEnd w | .wordStartHalf w
  | .wordEndHalf w => w.caseBlind
  | _ => true

/-- The texts are the same in small letters. -/
def SameLetters (text text' : Array Char) : Prop := text.map Char.toLower = text'.map Char.toLower

namespace SameLetters

variable {text text' : Array Char}

theorem size_eq (same : SameLetters text text') : text.size = text'.size := by
  have sizes := congrArg Array.size same
  rwa [Array.size_map, Array.size_map] at sizes

theorem any_eq (same : SameLetters text text') {p : Char → Bool} (blind : ∀ c, p c.toLower = p c)
    (k : Nat) : text[k]?.any p = text'[k]?.any p := by
  have at_k : text[k]?.map Char.toLower = text'[k]?.map Char.toLower := by
    rw [← Array.getElem?_map, ← Array.getElem?_map, same]
  have lower : ∀ c : Option Char, (c.map Char.toLower).any p = c.any p := by
    intro c
    cases c with
    | none => rfl
    | some c => exact blind c
  rw [← lower text[k]?, at_k, lower]

theorem ahead_eq (same : SameLetters text text') {s : CharSet} (blind : s.caseBlind = true)
    (k : Nat) : ahead s text k = ahead s text' k :=
  same.any_eq (CharSet.contains_toLower blind) k

theorem behind_eq (same : SameLetters text text') {s : CharSet} (blind : s.caseBlind = true)
    (k : Nat) : behind s text k = behind s text' k := by
  cases k with
  | zero => rfl
  | succ k => exact same.ahead_eq blind k

theorem lineFeed_blind : (CharSet.single '\n').caseBlind = true := by decide +kernel

theorem return_blind : (CharSet.single '\r').caseBlind = true := by decide +kernel

theorem holds_eq (same : SameLetters text text') {a : Anchor} (blind : a.caseBlind = true) (k : Nat) :
    a.holds text k = a.holds text' k := by
  cases a with
  | wordEdge w | notWordEdge w | wordStart w | wordEnd w | wordStartHalf w | wordEndHalf w =>
      have blind : w.caseBlind = true := blind
      simp only [Anchor.holds, same.ahead_eq blind, same.behind_eq blind]
  | textStart | textEnd | lineStart | lineEnd | anyLineStart | anyLineEnd =>
      simp only [Anchor.holds, same.size_eq, same.ahead_eq lineFeed_blind,
        same.behind_eq lineFeed_blind, same.ahead_eq return_blind, same.behind_eq return_blind]

theorem extract (same : SameLetters text text') (i j : Nat) :
    SameLetters (text.extract i j) (text'.extract i j) := by
  unfold SameLetters
  rw [Array.map_extract, Array.map_extract, same]

end SameLetters

namespace Regex

def caseBlind (r : Regex) : Bool := r.all CharSet.caseBlind Anchor.caseBlind

variable {text text' : Array Char} {r : Regex}

theorem matches_of_sameLetters (same : SameLetters text text') {i j : Nat}
    (blind : r.caseBlind = true) (here : Matches text r i j) : Matches text' r i j := by
  induction here with
  | empty => exact .empty _
  | @chars s c k at_k mem =>
      have there := same.ahead_eq blind k
      rw [ahead, at_k, Option.any_some, mem, eq_comm, ahead, Option.any_eq_true] at there
      obtain ⟨d, at_k', mem'⟩ := there
      exact .chars at_k' mem'
  | look holds => exact .look ((same.holds_eq blind _).symm.trans holds)
  | seq _ _ ih ih' =>
      obtain ⟨left, right⟩ := Bool.and_eq_true_iff.mp blind
      exact .seq (ih left) (ih' right)
  | altFirst _ ih => exact .altFirst (ih (Bool.and_eq_true_iff.mp blind).1)
  | altSecond _ ih => exact .altSecond (ih (Bool.and_eq_true_iff.mp blind).2)
  | once _ ih => exact .once (ih blind)
  | again _ _ ih ih' => exact .again (ih blind) (ih' blind)

theorem isMatch_eq_of_sameLetters (same : SameLetters text text') (blind : r.caseBlind = true) :
    r.isMatch (.ofArray text) = r.isMatch (.ofArray text') := by
  rw [Bool.eq_iff_iff, isMatch_iff, isMatch_iff, same.size_eq]
  exact exists_congr fun i => exists_congr fun j => and_congr_right fun _ =>
    ⟨matches_of_sameLetters same blind, matches_of_sameLetters same.symm blind⟩

theorem ends_eq_of_sameLetters (same : SameLetters text text') (blind : r.caseBlind = true) :
    r.ends text = r.ends text' := by
  induction r with
  | empty => rfl
  | chars s =>
      funext i
      have there : text[i]?.any s.contains = text'[i]?.any s.contains := same.ahead_eq blind i
      rw [ends, ends, there]
  | look a =>
      funext i
      rw [ends, ends, same.holds_eq blind]
  | seq r s first second =>
      obtain ⟨left, right⟩ := Bool.and_eq_true_iff.mp blind
      funext i
      rw [ends, ends, first left, second right]
  | alt r s first second =>
      obtain ⟨left, right⟩ := Bool.and_eq_true_iff.mp blind
      funext i
      rw [ends, ends, first left, second right]
  | plus greedy r body =>
      funext i
      rw [ends, ends, body blind, same.size_eq]

theorem matchAt_eq_of_sameLetters (same : SameLetters text text') (blind : r.caseBlind = true) :
    r.matchAt text = r.matchAt text' := by
  funext i
  rw [matchAt, matchAt, ends_eq_of_sameLetters same blind]

theorem startsAt_iff_of_sameLetters (same : SameLetters text text') (blind : r.caseBlind = true)
    (i : Nat) : r.StartsAt text i ↔ r.StartsAt text' i := by
  rw [StartsAt, StartsAt, matchAt_eq_of_sameLetters same blind]

-- A search sees nothing of a text but the matches at its positions and its size.
theorem findWithin_congr (starts : r.matchAt text = r.matchAt text') (count i : Nat) :
    r.findWithin text count i = r.findWithin text' count i := by
  induction count generalizing i with
  | zero => rfl
  | succ count ih => rw [findWithin, findWithin, starts, ih]

theorem findNext_congr (starts : r.matchAt text = r.matchAt text') (size : text.size = text'.size)
    (last : Option Nat) : r.findNext text last = r.findNext text' last := by
  have from_eq : ∀ i, r.findFrom text i = r.findFrom text' i := by
    intro i
    rw [findFrom, findFrom, size, findWithin_congr starts]
  cases last with
  | none => exact from_eq 0
  | some e => simp only [findNext, from_eq]

theorem findAllAfter_congr (starts : r.matchAt text = r.matchAt text') (size : text.size = text'.size)
    (fuel : Nat) (last : Option Nat) :
    r.findAllAfter text fuel last = r.findAllAfter text' fuel last := by
  induction fuel generalizing last with
  | zero => rfl
  | succ fuel ih => simp only [findAllAfter, findNext_congr starts size, ih]

theorem findAll_eq_of_sameLetters (same : SameLetters text text') (blind : r.caseBlind = true) :
    r.findAll text = r.findAll text' := by
  rw [findAll, findAll, same.size_eq]
  exact findAllAfter_congr (matchAt_eq_of_sameLetters same blind) same.size_eq _ _

end Regex
end Pattern
end FeatureScan
