import FeatureScan.JsonForm
import FeatureScan.Instant.Reader

/-!
The JSON report: written with its time in milliseconds, and read back as a claim that is
still to be checked.
-/

namespace FeatureScan

/-- A report as it was read. -/
structure Export where
  time : Instant
  claimed : Analysis
  deriving Repr, DecidableEq

namespace Instant

/-- A text that names an instant. -/
def shape : Json.Shape :=
  .written "an RFC 3339 formatted date and time string" fun s => (read? s).isSome

def ofJson? (v : Json) : Option Instant := v.asText?.bind read?

/-- The instant as it is stored, with as many places as needed. -/
def toJson (t : Instant) : Json := .text (t.toText .asNeeded)

end Instant

namespace Analysis

/-- The report on an outcome. -/
def toReport (a : Analysis) (time : Instant) : String :=
  (Json.object
    [("timestamp", .text (time.toText .millis)), ("language", a.language.toJson),
      ("summary", a.summary.toJson),
      ("features", .list (a.features.map Feature.toJson))]).pretty

end Analysis

namespace Export

def shape : Json.Shape :=
  .record "ExportedReport"
    [("timestamp", Instant.shape), ("language", Language.shape), ("summary", Summary.shape),
      ("features", .list Feature.shape)]

def ofJson? (v : Json) : Option Export := do
  let time ← memberAs Instant.ofJson? "timestamp" v
  some ⟨time, ← Analysis.ofJson? v⟩

def read (text : String) : Except ScanFault Export :=
  match shape.readDocument text with
  | .error problem => .error (.json ⟨problem, text⟩)
  | .ok v =>
      match ofJson? v with
      | some e => .ok e
      | none => .error (.json ⟨⟨.unsuitable none, 0, false⟩, text⟩)

/-- The outcome of the report, if the detector could have given it. -/
def outcome (e : Export) : Except ScanFault Analysis :=
  match e.claimed.check with
  | .ok a => .ok a
  | .error flaw => .error (.report flaw)

end Export
end FeatureScan
