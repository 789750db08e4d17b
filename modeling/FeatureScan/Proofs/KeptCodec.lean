import FeatureScan.Proofs.InstantText
import FeatureScan.Proofs.Json.RoundTrip
import FeatureScan.Proofs.OutcomeInvariant

/-!
The documents of kept entries lose nothing. Each type writes a value of its shape that
stands for what was written, and the value of a shape survives its text. The check of an
outcome is part of the shape, so this needs outcomes that could have been computed.
-/

namespace FeatureScan

open Json (Shape)
open Json.Shape (AdmitsFields admitsFields_nil admits_text admits_flag admits_count)

namespace Json

/-- The value belongs to the shape and is read as `a`. -/
structure Stands {α : Type} (s : Shape) (read? : Json → Option α) (v : Json) (a : α) : Prop where
  admitted : s.Admits v
  read : read? v = some a

theorem mapM_map_eq_some {α : Type} {read? : Json → Option α} {write : α → Json} {items : List α}
    (each : ∀ a ∈ items, read? (write a) = some a) : (items.map write).mapM read? = some items := by
  induction items with
  | nil => rfl
  | cons a rest ih =>
      have first := each a List.mem_cons_self
      have others := ih fun b hb => each b (List.mem_cons_of_mem a hb)
      simp [first, others]

theorem stands_list {α : Type} {s : Shape} {read? : Json → Option α} {write : α → Json}
    {items : List α} (each : ∀ a ∈ items, Stands s read? (write a) a) :
    Stands (.list s) (asListOf? read?) (.list (items.map write)) items where
  admitted := by
    refine ⟨items.map write, fun v hv => ?_, rfl⟩
    obtain ⟨a, ha, rfl⟩ := List.mem_map.mp hv
    exact (each a ha).admitted
  read := mapM_map_eq_some fun a ha => (each a ha).read

end Json

open Json (Stands)

theorem Support.stands (s : Support) : Stands shape ofJson? s.toJson s where
  admitted := ⟨s.name, by cases s <;> decide, rfl⟩
  read := by cases s <;> decide

theorem Language.stands (l : Language) : Stands shape ofJson? l.toJson l where
  admitted := ⟨l.name, by cases l <;> decide, rfl⟩
  read := by cases l <;> decide

theorem Feature.stands (f : Feature) : Stands shape ofJson? f.toJson f where
  admitted :=
    (AdmitsFields.cons (admits_text f.id) <|
      AdmitsFields.cons f.support.stands.admitted <|
      AdmitsFields.cons (admits_flag f.found) admitsFields_nil).record _
  read := by
    have support := f.support.stands.read
    simp [ofJson?, toJson, memberAs, Json.member?, lookupEntry, Json.asText?, Json.asBool?, support]

/-- The counts fit into the whole numbers of a document. -/
structure Summary.Fits (s : Summary) : Prop where
  total : s.total ≤ Json.greatestWhole
  baseline : s.baseline ≤ Json.greatestWhole
  needsFallback : s.needsFallback ≤ Json.greatestWhole
  unknown : s.unknown ≤ Json.greatestWhole

theorem Summary.stands {s : Summary} (fits : s.Fits) : Stands shape ofJson? s.toJson s where
  admitted :=
    (AdmitsFields.cons (admits_count fits.total) <|
      AdmitsFields.cons (admits_count fits.baseline) <|
      AdmitsFields.cons (admits_count fits.needsFallback) <|
      AdmitsFields.cons (admits_count fits.unknown) admitsFields_nil).record _
  read := by
    simp [ofJson?, toJson, memberAs, Json.member?, lookupEntry, Json.asNat?, Json.ofNat]

namespace Instant

theorem stands_toText (places : Places) {t : Instant} (regular : t.Regular) :
    Stands shape ofJson? (.text (t.toText places)) (t.shown places) := by
  have back := read?_toText places regular
  constructor
  · refine ⟨t.toText places, ?_, rfl⟩
    simp only [back, Option.isSome_some]
  · simp only [ofJson?, Json.asText?, Option.bind_some, back]

theorem stands {t : Instant} (regular : t.Regular) : Stands shape ofJson? t.toJson t :=
  stands_toText .asNeeded regular

end Instant

namespace Analysis

/-- An outcome that a document can hold: one that the detector could have given, with no
more features than a document can count. -/
structure Storable (a : Analysis) : Prop extends Sound a where
  found : ∀ f ∈ a.features, f.found = true
  countable : a.features.length ≤ Json.greatestWhole

theorem Storable.fits {a : Analysis} (h : a.Storable) : a.summary.Fits := by
  obtain ⟨_, total, counts⟩ := h.toSound.coherent
  have countable := h.countable
  constructor <;> omega

theorem stands_parts {a : Analysis} (fits : a.summary.Fits) :
    Stands partsShape ofJson? a.toJson a := by
  have language := a.language.stands
  have features := Json.stands_list fun f (_ : f ∈ a.features) => f.stands
  have summary := Summary.stands fits
  constructor
  · exact (AdmitsFields.cons language.admitted <|
      AdmitsFields.cons features.admitted <|
      AdmitsFields.cons summary.admitted admitsFields_nil).record _
  · simp [ofJson?, toJson, memberAs, Json.member?, lookupEntry, language.read, features.read,
      summary.read]

theorem stands {a : Analysis} (h : a.Storable) : Stands shape ofJson? a.toJson a := by
  obtain ⟨admitted, read⟩ := stands_parts h.fits
  have passed : a.check = .ok a := check_eq_ok.mpr ⟨rfl, h.toSound, h.found⟩
  refine ⟨⟨admitted, ?_⟩, read⟩
  simp only [jsonFault, read, passed]

end Analysis

namespace Catalog

/-- What a catalog finds can be stored if its signatures can be counted. -/
theorem storable_analyze {c : Catalog} (countable : c.size ≤ Json.greatestWhole) (text : String)
    (d : Dataset) : (c.analyze text d).Storable where
  toSound := c.sound_analyze text d
  found := c.detect_found text d
  countable := by
    refine Nat.le_trans ?_ countable
    by_cases nonempty : text = ""
    · subst nonempty
      exact Nat.zero_le _
    · have length := (c.detect_perm d nonempty).length_eq
      rw [List.length_map] at length
      exact Nat.le_trans (Nat.le_of_eq length) (List.length_filter_le _ _)

end Catalog

namespace Analysis

/-- An outcome of the program: put together from features seen in snippets, or what a
catalog finds. What is counted is a list of the program, whose length has 64 bits. -/
inductive Made : Analysis → Prop
  | ofDetected (seen : List (String × Support)) (countable : seen.length ≤ Json.greatestWhole) :
      Made (ofFeatures (seen.map fun f => .detected f.1 f.2))
  | analyze (c : Catalog) (text : String) (d : Dataset) (countable : c.size ≤ Json.greatestWhole) :
      Made (c.analyze text d)

/-- Features that are dropped, because one of the same identifier came before, need not be
marked. -/
theorem storable_ofFeatures {features : List Feature}
    (found : ∀ f ∈ Feature.firstOfEach features, f.found = true)
    (countable : features.length ≤ Json.greatestWhole) : (ofFeatures features).Storable where
  toSound := sound_ofFeatures features
  found f hf := found f ((Feature.sort_perm _).mem_iff.mp hf)
  countable := by
    refine Nat.le_trans ?_ countable
    change (Feature.sort _).length ≤ _
    rw [(Feature.sort_perm _).length_eq]
    exact (Feature.firstOfEach_sublist features).length_le

theorem Made.storable {a : Analysis} (made : a.Made) : a.Storable := by
  cases made with
  | ofDetected seen countable =>
      refine storable_ofFeatures (fun f hf => ?_) (by rwa [List.length_map])
      obtain ⟨_, _, rfl⟩ := List.mem_map.mp ((Feature.firstOfEach_sublist _).mem hf)
      rfl
  | analyze c text d countable => exact Catalog.storable_analyze countable text d

end Analysis

namespace HistoryItem

structure Storable (h : HistoryItem) : Prop where
  results : h.results.Storable
  time : h.time.Regular

/-- An item with an outcome of the program, at a time of the calendar. -/
structure Made (h : HistoryItem) : Prop where
  results : h.results.Made
  time : h.time.Regular

theorem Made.storable {h : HistoryItem} (made : h.Made) : h.Storable :=
  ⟨made.results.storable, made.time⟩

theorem stands {h : HistoryItem} (storable : h.Storable) : Stands shape ofJson? h.toJson h := by
  have results := Analysis.stands storable.results
  have time := Instant.stands storable.time
  constructor
  · exact (AdmitsFields.cons (admits_text h.id) <|
      AdmitsFields.cons (admits_text h.code) <|
      AdmitsFields.cons results.admitted <|
      AdmitsFields.cons time.admitted <|
      AdmitsFields.cons (admits_text h.preview) admitsFields_nil).record _
  · simp [ofJson?, toJson, memberAs, Json.member?, lookupEntry, Json.asText?, results.read,
      time.read]

end HistoryItem

namespace Bookmark

structure Storable (b : Bookmark) : Prop where
  results : ∀ a, b.results = some a → a.Storable
  time : b.time.Regular

/-- A bookmark with or without an outcome of the program, at a time of the calendar. -/
structure Made (b : Bookmark) : Prop where
  results : ∀ a, b.results = some a → a.Made
  time : b.time.Regular

theorem Made.storable {b : Bookmark} (made : b.Made) : b.Storable :=
  ⟨fun a has => (made.results a has).storable, made.time⟩

/-- The member for the outcome, which may be missing. -/
def resultsToJson : Option Analysis → Json
  | some a => a.toJson
  | none => .null

theorem stands_results {results : Option Analysis} (storable : ∀ a, results = some a → a.Storable) :
    Stands (.option Analysis.shape) resultsOfJson? (resultsToJson results) results := by
  cases results with
  | none => exact ⟨Or.inl rfl, rfl⟩
  | some a =>
      obtain ⟨admitted, read⟩ := Analysis.stands (storable a rfl)
      refine ⟨Or.inr admitted, ?_⟩
      change (Analysis.ofJson? a.toJson).map some = some (some a)
      rw [read]
      rfl

theorem toJson_eq (b : Bookmark) :
    b.toJson = .object
      [("id", .text b.id), ("name", .text b.name), ("code", .text b.code),
        ("results", resultsToJson b.results), ("timestamp", b.time.toJson),
        ("preview", .text b.preview)] := by
  rfl

theorem stands {b : Bookmark} (storable : b.Storable) : Stands shape ofJson? b.toJson b := by
  have results := stands_results storable.results
  have time := Instant.stands storable.time
  rw [toJson_eq]
  constructor
  · exact (AdmitsFields.cons (admits_text b.id) <|
      AdmitsFields.cons (admits_text b.name) <|
      AdmitsFields.cons (admits_text b.code) <|
      AdmitsFields.cons results.admitted <|
      AdmitsFields.cons time.admitted <|
      AdmitsFields.cons (admits_text b.preview) admitsFields_nil).record _
  · simp [ofJson?, memberAs, Json.member?, lookupEntry, Json.asText?, results.read, time.read]

end Bookmark

/-- A kind of entry whose stored lists are read back as they were. -/
class LawfulKept (α : Type) [Kept α] where
  Storable : α → Prop
  isKey_key : isKey (Kept.key α) = true
  regular : (Kept.shape α).Regular
  stands : ∀ e : α, Storable e → Stands (Kept.shape α) Kept.ofJson? (Kept.toJson e) e

instance : LawfulKept HistoryItem where
  Storable := HistoryItem.Storable
  isKey_key := by decide
  regular := HistoryItem.shape_regular
  stands _ := HistoryItem.stands

instance : LawfulKept Bookmark where
  Storable := Bookmark.Storable
  isKey_key := by decide
  regular := Bookmark.shape_regular
  stands _ := Bookmark.stands

namespace Kept

variable {α : Type} [Kept α] [LawfulKept α]

/-- A stored list is read back entry by entry. -/
theorem ofDocument?_toDocument {entries : List α}
    (storable : ∀ e ∈ entries, LawfulKept.Storable e) :
    ofDocument? (toDocument entries).compact = some entries := by
  obtain ⟨admitted, read⟩ :=
    Json.stands_list fun e (he : e ∈ entries) => LawfulKept.stands e (storable e he)
  have regular : (Shape.list (shape α)).Regular := LawfulKept.regular (α := α)
  have written := Shape.readDocument_write regular admitted .compact
  unfold ofDocument?
  rw [Json.compact, toDocument, written]
  exact read

end Kept
end FeatureScan
