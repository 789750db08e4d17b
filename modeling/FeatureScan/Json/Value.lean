import FeatureScan.Binary64
import FeatureScan.Dictionary

/-!
JSON values. Whole numbers of 64 bits are exact and all others are floating-point. The
members of an object are kept as a list; an object that was read as a plain value has
them in the order of their names.
-/

namespace FeatureScan
namespace Json

/-- A whole number `n`, a negative number `-(n + 1)` or a floating-point number. -/
inductive Number where
  | nat (n : Nat)
  | negSucc (n : Nat)
  | real (x : Binary64)
  deriving Repr, DecidableEq

end Json

inductive Json where
  | null
  | bool (b : Bool)
  | number (n : Json.Number)
  | text (s : String)
  | list (items : List Json)
  | object (members : List (String × Json))
  deriving Repr

namespace Json

def ofNat (n : Nat) : Json := .number (.nat n)

def member? (name : String) : Json → Option Json
  | .object members => lookupEntry name members
  | _ => none

end Json
end FeatureScan
