import FeatureScan.Fault
import FeatureScan.Json.Shape
import FeatureScan.Json.Writer
import FeatureScan.Query

/-!
The JSON forms of features, counts and outcomes: the shape that is accepted, the value
that is written, and the value of the domain that a value of the shape stands for.
-/

namespace FeatureScan

open Json (Shape)

/-- What a member of a given name holds, by the way it is read. -/
def memberAs {α : Type} (read? : Json → Option α) (name : String) (v : Json) : Option α :=
  (v.member? name).bind read?

def Json.asText? : Json → Option String
  | .text s => some s
  | _ => none

def Json.asNat? : Json → Option Nat
  | .number (.nat n) => some n
  | _ => none

def Json.asBool? : Json → Option Bool
  | .bool b => some b
  | _ => none

def Json.asListOf? {α : Type} (read? : Json → Option α) : Json → Option (List α)
  | .list items => items.mapM read?
  | _ => none

namespace Support

def shape : Shape := .choice (all.map name)

def toJson (s : Support) : Json := .text s.name

def ofJson? (v : Json) : Option Support := v.asText?.bind ofName?

end Support

namespace Category

def shape : Shape := .choice (all.map name)

def ofJson? (v : Json) : Option Category := v.asText?.bind ofName?

end Category

namespace Language

def shape : Shape := .choice (all.map name)

def toJson (l : Language) : Json := .text l.name

def ofJson? (v : Json) : Option Language := v.asText?.bind ofName?

end Language

def Rating.shape : Shape := .choice (Rating.all.map Rating.name)

namespace SortKey

def shape : Shape := .choice (all.map name)

def ofJson? (v : Json) : Option SortKey := v.asText?.bind ofName?

end SortKey

namespace Feature

def shape : Shape :=
  .record "DetectedFeature" [("feature", .text), ("status", Support.shape), ("found", .flag)]

def toJson (f : Feature) : Json :=
  .object [("feature", .text f.id), ("status", f.support.toJson), ("found", .bool f.found)]

def ofJson? (v : Json) : Option Feature := do
  let id ← memberAs Json.asText? "feature" v
  let support ← memberAs Support.ofJson? "status" v
  let found ← memberAs Json.asBool? "found" v
  some ⟨id, support, found⟩

end Feature

namespace Summary

def shape : Shape :=
  .record "Summary"
    [("total", .count), ("baseline", .count), ("needsFallback", .count), ("unknown", .count)]

def toJson (s : Summary) : Json :=
  .object
    [("total", .ofNat s.total), ("baseline", .ofNat s.baseline),
      ("needsFallback", .ofNat s.needsFallback), ("unknown", .ofNat s.unknown)]

def ofJson? (v : Json) : Option Summary := do
  let total ← memberAs Json.asNat? "total" v
  let baseline ← memberAs Json.asNat? "baseline" v
  let needsFallback ← memberAs Json.asNat? "needsFallback" v
  let unknown ← memberAs Json.asNat? "unknown" v
  some ⟨total, baseline, needsFallback, unknown⟩

end Summary

namespace Analysis

/-- The shape of an outcome that is not checked yet. -/
def partsShape : Shape :=
  .record "AnalysisParts"
    [("language", Language.shape), ("features", .list Feature.shape), ("summary", Summary.shape)]

def toJson (a : Analysis) : Json :=
  .object
    [("language", a.language.toJson), ("features", .list (a.features.map Feature.toJson)),
      ("summary", a.summary.toJson)]

def ofJson? (v : Json) : Option Analysis := do
  let language ← memberAs Language.ofJson? "language" v
  let features ← memberAs (Json.asListOf? Feature.ofJson?) "features" v
  let summary ← memberAs Summary.ofJson? "summary" v
  some ⟨language, features, summary⟩

/-- Why a value of the unchecked shape is no outcome. -/
def jsonFault (v : Json) : Option String :=
  match ofJson? v with
  | none => none
  | some a =>
      match a.check with
      | .ok _ => none
      | .error flaw => some (ScanFault.report flaw).message

/-- The shape of an outcome. -/
def shape : Shape := .checked partsShape jsonFault

end Analysis
end FeatureScan
