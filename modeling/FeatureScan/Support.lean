/-!
How well the current browsers support a feature, and the kinds of feature.
-/

namespace FeatureScan

/-- The support statuses, in the order in which a report lists them. -/
inductive Support where
  | baseline
  | needsFallback
  | unknown
  deriving Repr, DecidableEq

namespace Support

def all : List Support := [.baseline, .needsFallback, .unknown]

/-- The place of a status in a report. -/
def priority : Support → Nat
  | .baseline => 0
  | .needsFallback => 1
  | .unknown => 2

/-- The status that a flag of a dataset stands for. -/
def ofFlag : Option Bool → Support
  | some true => .baseline
  | some false => .needsFallback
  | none => .unknown

def name : Support → String
  | .baseline => "baseline"
  | .needsFallback => "needs-fallback"
  | .unknown => "unknown"

def ofName? (s : String) : Option Support := all.find? fun t => t.name == s

def label : Support → String
  | .baseline => "Baseline"
  | .needsFallback => "Needs Fallback"
  | .unknown => "Unknown"

def icon : Support → String
  | .baseline => "\u2705"
  | .needsFallback => "\u26a0\ufe0f"
  | .unknown => "\u2753"

/-- What is said of a text that names no status. -/
def unknownNameMessage (s : String) : String := "unknown support status: " ++ s

end Support

/-- The kinds of feature, in the order in which their tables are scanned. -/
inductive Category where
  | css
  | html
  | js
  | form
  deriving Repr, DecidableEq

namespace Category

def all : List Category := [.css, .html, .js, .form]

def name : Category → String
  | .css => "css"
  | .html => "html"
  | .js => "js"
  | .form => "form"

def ofName? (s : String) : Option Category := all.find? fun c => c.name == s

end Category
end FeatureScan
