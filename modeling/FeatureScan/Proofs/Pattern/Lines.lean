import FeatureScan.Proofs.Pattern.Matches

/-!
Matches in a text that stands as whole lines in another one. Next to such a part the other
text has a line feed or ends. An expression that takes the two for the same, wherever it
looks at a position, has its matches in the part also in the whole.
-/

namespace FeatureScan
namespace Pattern

/-- Whether the anchor takes a line feed next to a text for the end of the text. A carriage
return before the line feed would make a difference to the last two of the first row. -/
def Anchor.joinable : Anchor → Bool
  | .textStart | .textEnd | .anyLineStart | .anyLineEnd => false
  | .lineStart | .lineEnd => true
  | .wordEdge w | .notWordEdge w | .wordStart w | .wordEnd w | .wordStartHalf w
  | .wordEndHalf w => !w.contains '\n'

def Regex.joinable (r : Regex) : Bool := r.all (fun _ => true) Anchor.joinable

/-- The part stands in the whole text from position `start` on, as lines of their own. -/
structure StandsAt (part whole : Array Char) (start : Nat) : Prop where
  inside : ∀ k < part.size, whole[start + k]? = part[k]?
  before : start = 0 ∨ ∃ k, start = k + 1 ∧ whole[k]? = some '\n'
  after : whole.size = start + part.size ∨ whole[start + part.size]? = some '\n'

namespace StandsAt

variable {part whole : Array Char} {start : Nat}

theorem le_size (h : StandsAt part whole start) {k : Nat} (bound : k ≤ part.size) :
    start + k ≤ whole.size := by
  rcases h.after with same | lineFeed
  · omega
  · have within := (Array.getElem?_eq_some_iff.mp lineFeed).1
    omega

theorem behind_eq (h : StandsAt part whole start) {w : CharSet} (apart : w.contains '\n' = false)
    {k : Nat} (bound : k ≤ part.size) : behind w whole (start + k) = behind w part k := by
  cases k with
  | zero =>
      rcases h.before with rfl | ⟨k, rfl, lineFeed⟩
      · rfl
      · simp [behind, lineFeed, apart]
  | succ k =>
      change whole[start + k]?.any w.contains = part[k]?.any w.contains
      rw [h.inside k bound]

theorem ahead_eq (h : StandsAt part whole start) {w : CharSet} (apart : w.contains '\n' = false)
    {k : Nat} (bound : k ≤ part.size) : ahead w whole (start + k) = ahead w part k := by
  unfold ahead
  rcases Nat.lt_or_eq_of_le bound with within | rfl
  · rw [h.inside k within]
  · have nothing : part[part.size]? = none := Array.getElem?_eq_none (Nat.le_refl _)
    rw [nothing]
    rcases h.after with whole_size | lineFeed
    · rw [Array.getElem?_eq_none (Nat.le_of_eq whole_size)]
    · simp [lineFeed, apart]

theorem holds_lineStart (h : StandsAt part whole start) {k : Nat} (bound : k ≤ part.size)
    (here : Anchor.lineStart.holds part k = true) :
    Anchor.lineStart.holds whole (start + k) = true := by
  simp only [Anchor.holds, Bool.or_eq_true, beq_iff_eq] at here ⊢
  cases k with
  | zero =>
      rcases h.before with rfl | ⟨k, rfl, lineFeed⟩
      · exact .inl rfl
      · exact .inr (by simp [behind, lineFeed, CharSet.single, CharSet.contains])
  | succ k =>
      refine .inr ?_
      change whole[start + k]?.any _ = true
      rw [h.inside k bound]
      exact here.resolve_left (Nat.succ_ne_zero k)

theorem holds_lineEnd (h : StandsAt part whole start) {k : Nat} (bound : k ≤ part.size)
    (here : Anchor.lineEnd.holds part k = true) : Anchor.lineEnd.holds whole (start + k) = true := by
  simp only [Anchor.holds, Bool.or_eq_true, beq_iff_eq] at here ⊢
  rcases Nat.lt_or_eq_of_le bound with within | rfl
  · refine .inr ?_
    rw [ahead, h.inside k within]
    exact here.resolve_left (Nat.ne_of_lt within)
  · rcases h.after with whole_size | lineFeed
    · exact .inl whole_size.symm
    · exact .inr (by simp [ahead, lineFeed, CharSet.single, CharSet.contains])

theorem holds (h : StandsAt part whole start) {a : Anchor} (joinable : a.joinable = true) {k : Nat}
    (bound : k ≤ part.size) (here : a.holds part k = true) : a.holds whole (start + k) = true := by
  cases a with
  | textStart | textEnd | anyLineStart | anyLineEnd => cases joinable
  | lineStart => exact h.holds_lineStart bound here
  | lineEnd => exact h.holds_lineEnd bound here
  | wordEdge w | notWordEdge w | wordStart w | wordEnd w | wordStartHalf w | wordEndHalf w =>
      have apart : w.contains '\n' = false := by simpa [Anchor.joinable] using joinable
      simpa only [Anchor.holds, h.behind_eq apart bound, h.ahead_eq apart bound] using here

theorem matches_whole (h : StandsAt part whole start) {r : Regex} (joinable : r.joinable = true)
    {i j : Nat} (bound : i ≤ part.size) (here : Regex.Matches part r i j) :
    Regex.Matches whole r (start + i) (start + j) := by
  induction here with
  | empty => exact .empty _
  | chars at_i mem =>
      have within := (Array.getElem?_eq_some_iff.mp at_i).1
      exact .chars ((h.inside _ within).trans at_i) mem
  | look holds => exact .look (h.holds joinable bound holds)
  | seq first _ ih ih' =>
      obtain ⟨left, right⟩ := Bool.and_eq_true_iff.mp joinable
      exact .seq (ih left bound) (ih' right (first.le_size bound))
  | altFirst _ ih => exact .altFirst (ih (Bool.and_eq_true_iff.mp joinable).1 bound)
  | altSecond _ ih => exact .altSecond (ih (Bool.and_eq_true_iff.mp joinable).2 bound)
  | once _ ih => exact .once (ih joinable bound)
  | again body _ ih ih' => exact .again (ih joinable bound) (ih' joinable (body.le_size bound))

end StandsAt

theorem standsAt_first (a b : List Char) :
    StandsAt a.toArray (a ++ '\n' :: b).toArray 0 where
  inside k within := by
    rw [List.size_toArray] at within
    simp [List.getElem?_append_left within]
  before := .inl rfl
  after := .inr (by simp)

theorem standsAt_second (a b : List Char) :
    StandsAt b.toArray (a ++ '\n' :: b).toArray (a.length + 1) where
  inside k _ := by
    rw [List.getElem?_toArray, List.getElem?_append_right (by omega)]
    have next : a.length + 1 + k - a.length = k + 1 := by omega
    simp [next]
  before := .inr ⟨a.length, rfl, by simp⟩
  after := .inl (by simp; omega)

end Pattern
end FeatureScan
