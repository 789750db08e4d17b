import FeatureScan.Dictionary
import FeatureScan.Support

/-!
Support datasets. A dataset flags identifiers as supported everywhere or as in need of a
fallback; of any other identifier it says nothing.
-/

namespace FeatureScan

structure Dataset where
  flags : Dictionary Bool
  deriving DecidableEq

namespace Dataset

def empty : Dataset := ⟨.empty⟩

/-- The dataset of a list of flags. An identifier whose last flag is absent is not in the
dataset. -/
def ofFlags (flags : List (String × Option Bool)) : Dataset :=
  ⟨flags.foldl
    (fun d e => match e.2 with
      | some flag => d.insert e.1 flag
      | none => d.erase e.1)
    .empty⟩

def flag? (d : Dataset) (id : String) : Option Bool := d.flags.get? id

def supportOf (d : Dataset) (id : String) : Support := .ofFlag (d.flag? id)

def size (d : Dataset) : Nat := d.flags.size

def isEmpty (d : Dataset) : Bool := d.flags.entries.isEmpty

end Dataset
end FeatureScan
