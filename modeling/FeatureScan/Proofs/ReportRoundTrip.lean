import FeatureScan.Proofs.KeptCodec

/-!
A report on an outcome of the program is read back: its time to the millisecond, and the
outcome whole. The members of a report stand in another order than those of a stored
outcome, and its check is made only when the outcome is asked for.
-/

namespace FeatureScan

open Json (Stands)
open Json.Shape (AdmitsFields admitsFields_nil)

/-- The value that is written as the report. -/
def Analysis.reportJson (a : Analysis) (time : Instant) : Json :=
  .object
    [("timestamp", .text (time.toText .millis)), ("language", a.language.toJson),
      ("summary", a.summary.toJson), ("features", .list (a.features.map Feature.toJson))]

namespace Export

theorem shape_regular : shape.Regular := by
  simp [shape, Instant.shape, Language.shape, Feature.shape, Support.shape, Summary.shape,
    Json.Shape.Regular, Json.Shape.RegularFields, Json.Shape.RegularField]

theorem stands {a : Analysis} (fits : a.summary.Fits) {t : Instant} (regular : t.Regular) :
    Stands shape ofJson? (a.reportJson t) ⟨t.toMillis, a⟩ := by
  have time := Instant.stands_toText .millis regular
  have language := a.language.stands
  have summary := Summary.stands fits
  have features := Json.stands_list fun f (_ : f ∈ a.features) => f.stands
  constructor
  · exact (AdmitsFields.cons time.admitted <|
      AdmitsFields.cons language.admitted <|
      AdmitsFields.cons summary.admitted <|
      AdmitsFields.cons features.admitted admitsFields_nil).record _
  · simp [ofJson?, Analysis.ofJson?, Analysis.reportJson, memberAs, Json.member?, lookupEntry,
      time.read, language.read, summary.read, features.read, Instant.shown]

theorem read_toReport {a : Analysis} (fits : a.summary.Fits) {t : Instant} (regular : t.Regular) :
    read (a.toReport t) = .ok ⟨t.toMillis, a⟩ := by
  obtain ⟨admitted, back⟩ := stands fits regular
  have written : shape.readDocument (a.toReport t) = .ok (a.reportJson t) :=
    Json.Shape.readDocument_write shape_regular admitted (.lines 0)
  simp only [read, written, back]

theorem outcome_of_storable {a : Analysis} (storable : a.Storable) (t : Instant) :
    (Export.mk t a).outcome = .ok a := by
  have passed : a.check = .ok a :=
    Analysis.check_eq_ok.mpr ⟨rfl, storable.toSound, storable.found⟩
  simp only [outcome, passed]

/-- A report loses nothing of an outcome of the program, and of the time what is less than
a millisecond. -/
theorem report_loses_nothing {a : Analysis} (made : a.Made) {t : Instant} (regular : t.Regular) :
    ∃ e, read (a.toReport t) = .ok e ∧
      e.time = ⟨t.seconds, t.nanos / 1000000 * 1000000⟩ ∧ e.outcome = .ok a :=
  ⟨⟨t.toMillis, a⟩, read_toReport made.storable.fits regular, rfl,
    outcome_of_storable made.storable t.toMillis⟩

/-- A leap second in a year before the common era, and identifiers with characters that are
escaped, one of them twice. -/
theorem report_of_escaped_identifiers :
    let t : Instant := ⟨-70000000021, 1123456789⟩
    let a := Analysis.ofFeatures
      ([("a\"b\\", .unknown), ("\x00\n", .baseline), ("a\"b\\", .baseline)].map fun f =>
        .detected f.1 f.2)
    t.toText .millis = "-0249-10-15T19:32:60.123Z" ∧
      ∃ e, read (a.toReport t) = .ok e ∧ e.time = ⟨-70000000021, 1123000000⟩ ∧
        e.outcome = .ok a := by
  intro t a
  have made : a.Made := .ofDetected _ (by decide)
  have regular : t.Regular := by decide
  obtain ⟨e, read, time, outcome⟩ := report_loses_nothing made regular
  exact ⟨by decide +kernel, e, read, time.trans (by decide), outcome⟩

end Export
end FeatureScan
