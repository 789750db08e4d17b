import FeatureScan.Language
import FeatureScan.Summary

/-!
The outcome of analyzing one snippet. The language and the summary are determined by the
features; an outcome that comes from outside is accepted only if it could have been
computed here.
-/

namespace FeatureScan

/-- A language, features and counts that are claimed to belong together. An outcome is
one where they do. -/
structure Analysis where
  language : Language
  features : List Feature
  summary : Summary
  deriving Repr, DecidableEq

/-- Why an outcome from outside is refused. -/
inductive Flaw where
  | notFound (id : String)
  | duplicate (id : String)
  | outOfOrder (first second : String)
  | wrongSummary (claimed derived : Summary)
  | wrongLanguage (claimed derived : Language)
  deriving Repr, DecidableEq

namespace Flaw

def message : Flaw → String
  | .notFound id => "feature " ++ id ++ " is not marked as found"
  | .duplicate id => "duplicate feature " ++ id
  | .outOfOrder first second => "features out of order: " ++ first ++ " before " ++ second
  | .wrongSummary claimed derived =>
      "summary " ++ claimed.describe ++ " does not match features (" ++ derived.describe ++ ")"
  | .wrongLanguage claimed derived =>
      "language " ++ claimed.name ++ " does not match features (" ++ derived.name ++ ")"

end Flaw

namespace Analysis

/-- The outcome with these features, which are in order. -/
def ofSorted (features : List Feature) : Analysis :=
  ⟨Language.infer features, features, Summary.ofFeatures features⟩

/-- The outcome with the first feature of each identifier. -/
def ofFeatures (features : List Feature) : Analysis :=
  ofSorted (Feature.sort (Feature.firstOfEach features))

def empty : Analysis := ofSorted []

def isEmpty (a : Analysis) : Bool := a.features.isEmpty

def get? (a : Analysis) (id : String) : Option Feature := a.features.find? (·.id == id)

/-- What computed outcomes satisfy. -/
structure Sound (a : Analysis) : Prop where
  ordered : a.features.Pairwise Feature.Precedes
  distinct : (a.features.map Feature.id).Nodup
  language_eq : a.language = Language.infer a.features
  summary_eq : a.summary = Summary.ofFeatures a.features

/-- The first feature that is not marked as found or repeats an identifier. -/
def checkEach (seen : List String) : List Feature → Except Flaw Unit
  | [] => .ok ()
  | f :: rest =>
      if !f.found then .error (.notFound f.id)
      else if seen.contains f.id then .error (.duplicate f.id)
      else checkEach (f.id :: seen) rest

/-- The first feature that stands after its successor in the order of reports. -/
def checkOrder : List Feature → Except Flaw Unit
  | a :: b :: rest =>
      if a.notAfter b then checkOrder (b :: rest) else .error (.outOfOrder a.id b.id)
  | _ => .ok ()

/-- The outcome again, if the detector could have given it. -/
def check (a : Analysis) : Except Flaw Analysis := do
  checkEach [] a.features
  checkOrder a.features
  let derived := ofSorted a.features
  if derived.summary ≠ a.summary then
    throw (.wrongSummary a.summary derived.summary)
  if derived.language ≠ a.language then
    throw (.wrongLanguage a.language derived.language)
  return derived

end Analysis
end FeatureScan
