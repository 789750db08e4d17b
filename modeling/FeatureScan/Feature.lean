import FeatureScan.Support

/-!
Features reported for a snippet and their order: by support status, then by identifier.
-/

namespace FeatureScan

structure Feature where
  id : String
  support : Support
  /-- Whether the snippet was seen to use the feature. The detector reports only such
  features; a value from outside may say otherwise. -/
  found : Bool
  deriving Repr, DecidableEq

namespace Feature

/-- A feature seen in a snippet. -/
def detected (id : String) (support : Support) : Feature := ⟨id, support, true⟩

/-- Whether `a` may stand before `b` in a report. -/
def notAfter (a b : Feature) : Bool :=
  a.support.priority < b.support.priority ||
    (a.support.priority == b.support.priority && decide (a.id ≤ b.id))

/-- Whether `a` stands before `b` in a report and differs from it. -/
def Precedes (a b : Feature) : Prop :=
  a.support.priority < b.support.priority ∨ (a.support = b.support ∧ a.id < b.id)

/-- The list in the order of a report; features that tie keep their order. -/
def sort (features : List Feature) : List Feature := features.mergeSort notAfter

/-- The first feature of each identifier. -/
def firstOfEach (features : List Feature) : List Feature :=
  features.foldl (fun kept f => if kept.any (·.id == f.id) then kept else kept ++ [f]) []

end Feature
end FeatureScan
