import FeatureScan.Analysis
import FeatureScan.Text.CaseMap
import FeatureScan.Text.Pieces

/-!
Listing the features of an outcome: filtered, in one of two orders and by pages.
-/

namespace FeatureScan

/-- The order of a listing: that of reports, or by identifier alone. -/
inductive SortKey where
  | status
  | feature
  deriving Repr, DecidableEq

namespace SortKey

def all : List SortKey := [.status, .feature]

def name : SortKey → String
  | .status => "status"
  | .feature => "feature"

def ofName? (s : String) : Option SortKey := all.find? fun k => k.name == s

end SortKey

/-- What to list. Pages count from 1, and page 0 is page 1. -/
structure Query where
  support : Option Support
  search : Option String
  sort : SortKey
  page : Nat
  perPage : Nat
  deriving Repr, DecidableEq

structure Page where
  items : List Feature
  page : Nat
  totalPages : Nat
  totalMatches : Nat
  deriving Repr, DecidableEq

namespace Query

def defaultPerPage : Nat := 20

/-- Everything, from the first page on. -/
def all : Query := ⟨none, none, .status, 1, defaultPerPage⟩

/-- The greatest number of items that can be passed over. -/
def greatestSkip : Nat := 0xffffffffffffffff

/-- What an identifier must contain, in lower case. An empty search is none. -/
def needle (q : Query) : Option String :=
  (q.search.filter (· ≠ "")).map Text.lower

def accepts (q : Query) (f : Feature) : Bool :=
  q.support.all (· == f.support) &&
    q.needle.all fun n => Text.occursIn n.toList (Text.lower f.id).toList

/-- The accepted features in the order of the listing. -/
def matching (q : Query) (a : Analysis) : List Feature :=
  let found := a.features.filter q.accepts
  match q.sort with
  | .status => found
  | .feature => found.mergeSort fun f g => decide (f.id ≤ g.id)

def run (q : Query) (a : Analysis) : Page :=
  let found := q.matching a
  let perPage := max q.perPage 1
  let page := max q.page 1
  { items := (found.drop (min ((page - 1) * perPage) greatestSkip)).take perPage
    page
    totalPages := (found.length + perPage - 1) / perPage
    totalMatches := found.length }

end Query

namespace Analysis

/-- The features by status, each status with its group. -/
def groups (a : Analysis) : List (Support × List Feature) :=
  Support.all.map fun s => (s, a.features.filter (·.support = s))

end Analysis
end FeatureScan
