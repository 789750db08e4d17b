import FeatureScan.Kept
import FeatureScan.Proofs.DetectedFeatures
import FeatureScan.Proofs.Json.Admits

/-!
The invariant of outcomes, for every way to come by one: computing it, checking parts, and
reading a document, a stored entry or a report. What comes from outside is not trusted;
the check is part of the shape, so no text gets around it.
-/

namespace FeatureScan

namespace Json

theorem member_of_admitsFields {fields : List (String × Shape)} {members : List (String × Json)}
    (h : Shape.AdmitsFields fields members) (distinct : (fields.map Prod.fst).Nodup)
    {name : String} {s : Shape} (field : (name, s) ∈ fields) :
    ∃ v, lookupEntry name members = some v ∧ s.Admits v := by
  induction fields generalizing members with
  | nil => cases field
  | cons f fields ih =>
      obtain ⟨w, others, hw, ho, rfl⟩ := h
      rw [List.map_cons, List.nodup_cons] at distinct
      rcases List.mem_cons.mp field with rfl | field
      · exact ⟨w, if_pos rfl, (Shape.admitsField_iff _ _).mp hw⟩
      · have ne : f.1 ≠ name := fun same =>
          distinct.1 (same ▸ List.mem_map_of_mem field)
        obtain ⟨v, found, hv⟩ := ih ho distinct.2 field
        exact ⟨v, (if_neg ne).trans found, hv⟩

theorem member_of_admits {recordName name : String} {fields : List (String × Shape)} {s : Shape}
    {v : Json} (h : (Shape.record recordName fields).Admits v)
    (distinct : (fields.map Prod.fst).Nodup) (field : (name, s) ∈ fields) :
    ∃ w, v.member? name = some w ∧ s.Admits w := by
  obtain ⟨members, hm, rfl⟩ := h
  exact member_of_admitsFields hm distinct field

theorem memberAs_of_admits {α : Type} {read? : Json → Option α} {recordName name : String}
    {fields : List (String × Shape)} {s : Shape} {v : Json} {a : α}
    (h : (Shape.record recordName fields).Admits v) (distinct : (fields.map Prod.fst).Nodup)
    (field : (name, s) ∈ fields) (read : memberAs read? name v = some a) :
    ∃ w, s.Admits w ∧ read? w = some a := by
  obtain ⟨w, hw, admits⟩ := member_of_admits h distinct field
  rw [memberAs, hw] at read
  exact ⟨w, admits, read⟩

def Shape.decode {α : Type} (s : Shape) (read? : Json → Option α) (text : String) : Option α :=
  match s.readDocument text with
  | .ok v => read? v
  | .error _ => none

theorem Shape.decode_eq_some {α : Type} {s : Shape} {read? : Json → Option α} {text : String}
    {a : α} (regular : s.Regular) (h : s.decode read? text = some a) :
    ∃ v, s.Admits v ∧ read? v = some a := by
  unfold decode at h
  split at h
  next v read => exact ⟨v, s.readDocument_admits regular read, h⟩
  next => cases h

end Json

namespace Analysis

/-- What holds of every outcome: it is sound, its total is the number of its features, and
its three counts add up to the total. -/
structure Coherent (a : Analysis) : Prop extends Sound a where
  total_eq : a.summary.total = a.features.length
  counts_add : a.summary.baseline + a.summary.needsFallback + a.summary.unknown = a.summary.total

theorem Sound.coherent {a : Analysis} (h : a.Sound) : a.Coherent := by
  obtain ⟨total, counts⟩ := Summary.ofFeatures_total a.features
  rw [← h.summary_eq] at total counts
  exact ⟨h, total, counts⟩

theorem sound_of_check {a b : Analysis} (h : a.check = .ok b) : b.Sound := by
  obtain ⟨rfl, sound, _⟩ := check_eq_ok.mp h
  exact sound

theorem shape_regular : shape.Regular := by
  simp [shape, partsShape, Language.shape, Feature.shape, Support.shape, Summary.shape,
    Json.Shape.Regular, Json.Shape.RegularFields, Json.Shape.RegularField]

/-- The shape admits no value that stands for an outcome which fails its check. -/
theorem check_of_admits {v : Json} {a : Analysis} (h : shape.Admits v) (read : ofJson? v = some a) :
    ∃ b, a.check = .ok b := by
  obtain ⟨_, passed⟩ := h
  rw [jsonFault, read] at passed
  dsimp only at passed
  split at passed
  next b checked => exact ⟨b, checked⟩
  next => cases passed

theorem sound_of_admits {v : Json} {a : Analysis} (h : shape.Admits v) (read : ofJson? v = some a) :
    a.Sound := by
  obtain ⟨b, checked⟩ := check_of_admits h read
  exact (check_eq_ok.mp checked).2.1

end Analysis

namespace HistoryItem

theorem shape_regular : shape.Regular := by
  refine ⟨by decide, ?_⟩
  simp [Json.Shape.Regular, Json.Shape.RegularFields, Json.Shape.RegularField, Instant.shape,
    Analysis.shape_regular]

theorem results_of_admits {v : Json} {item : HistoryItem} (h : shape.Admits v)
    (read : ofJson? v = some item) :
    ∃ w, Analysis.shape.Admits w ∧ Analysis.ofJson? w = some item.results := by
  simp only [ofJson?, Option.bind_eq_bind, Option.bind_eq_some_iff] at read
  obtain ⟨_, _, _, _, results, hr, _, _, _, _, same⟩ := read
  cases same
  exact Json.memberAs_of_admits h (by decide) (s := Analysis.shape) (by simp) hr

theorem sound_of_admits {v : Json} {item : HistoryItem} (h : shape.Admits v)
    (read : ofJson? v = some item) : item.results.Sound := by
  obtain ⟨w, admits, hw⟩ := results_of_admits h read
  exact Analysis.sound_of_admits admits hw

end HistoryItem

namespace Bookmark

theorem shape_regular : shape.Regular := by
  refine ⟨by decide, ?_⟩
  simp [Json.Shape.Regular, Json.Shape.RegularFields, Json.Shape.RegularField, Instant.shape,
    Analysis.shape_regular]

theorem results_of_admits {v : Json} {b : Bookmark} {a : Analysis} (h : shape.Admits v)
    (read : ofJson? v = some b) (present : b.results = some a) :
    ∃ w, Analysis.shape.Admits w ∧ Analysis.ofJson? w = some a := by
  simp only [ofJson?, Option.bind_eq_bind, Option.bind_eq_some_iff] at read
  obtain ⟨_, _, _, _, _, _, results, hr, _, _, _, _, same⟩ := read
  cases same
  obtain ⟨w, admits, hw⟩ :=
    Json.memberAs_of_admits h (by decide) (s := .option Analysis.shape) (by simp) hr
  subst present
  unfold resultsOfJson? at hw
  split at hw
  · cases hw
  next notNull =>
    obtain ⟨b, hb, same⟩ := Option.map_eq_some_iff.mp hw
    cases same
    exact ⟨w, admits.resolve_left notNull, hb⟩

theorem sound_of_admits {v : Json} {b : Bookmark} {a : Analysis} (h : shape.Admits v)
    (read : ofJson? v = some b) (present : b.results = some a) : a.Sound := by
  obtain ⟨w, admits, hw⟩ := results_of_admits h read present
  exact Analysis.sound_of_admits admits hw

end Bookmark

namespace Kept

variable {α : Type} [Kept α]

theorem admits_of_ofDocument {text : String} {entries : List α} (regular : (shape α).Regular)
    (h : ofDocument? text = some entries) :
    ∀ e ∈ entries, ∃ v, (shape α).Admits v ∧ ofJson? v = some e := by
  obtain ⟨v, ⟨items, each, rfl⟩, read⟩ :=
    @Json.Shape.decode_eq_some _ (.list (shape α)) (Json.asListOf? ofJson?) text entries regular h
  intro e he
  obtain ⟨w, hw, read⟩ := exists_of_mem_mapM read he
  exact ⟨w, each w hw, read⟩

end Kept

namespace Analysis

/-- Every outcome is coherent, whether it was computed from features, found in a text, put
together from parts, or read from outside. -/
theorem coherent_of_any_origin :
    (∀ features, (ofFeatures features).Coherent) ∧
      (∀ (c : Catalog) (text : String) (d : Dataset), (c.analyze text d).Coherent) ∧
      empty.Coherent ∧
      (∀ parts a : Analysis, parts.check = .ok a → a.Coherent) ∧
      (∀ text a, shape.decode ofJson? text = some a → a.Coherent) ∧
      (∀ text item, HistoryItem.shape.decode HistoryItem.ofJson? text = some item →
        item.results.Coherent) ∧
      (∀ text b a, Bookmark.shape.decode Bookmark.ofJson? text = some b → b.results = some a →
        a.Coherent) ∧
      (∀ text items, Kept.ofDocument? text = some items →
        ∀ item : HistoryItem, item ∈ items → item.results.Coherent) ∧
      (∀ text bookmarks, Kept.ofDocument? text = some bookmarks →
        ∀ b : Bookmark, b ∈ bookmarks → ∀ a, b.results = some a → a.Coherent) ∧
      ∀ text e a, Export.read text = .ok e → e.outcome = .ok a → a.Coherent := by
  refine ⟨fun features => (sound_ofFeatures features).coherent,
    fun c text d => (c.sound_analyze text d).coherent, sound_empty.coherent,
    fun parts a h => (sound_of_check h).coherent, ?_, ?_, ?_, ?_, ?_, ?_⟩
  · intro text a h
    obtain ⟨v, admits, read⟩ := Json.Shape.decode_eq_some shape_regular h
    exact (sound_of_admits admits read).coherent
  · intro text item h
    obtain ⟨v, admits, read⟩ := Json.Shape.decode_eq_some HistoryItem.shape_regular h
    exact (HistoryItem.sound_of_admits admits read).coherent
  · intro text b a h present
    obtain ⟨v, admits, read⟩ := Json.Shape.decode_eq_some Bookmark.shape_regular h
    exact (Bookmark.sound_of_admits admits read present).coherent
  · intro text items h item mem
    obtain ⟨v, admits, read⟩ := Kept.admits_of_ofDocument HistoryItem.shape_regular h item mem
    exact (HistoryItem.sound_of_admits admits read).coherent
  · intro text bookmarks h b mem a present
    obtain ⟨v, admits, read⟩ := Kept.admits_of_ofDocument Bookmark.shape_regular h b mem
    exact (Bookmark.sound_of_admits admits read present).coherent
  · intro text e a _ h
    rw [Export.outcome] at h
    split at h
    next b checked =>
      cases h
      exact (sound_of_check checked).coherent
    next => cases h

/-- One outcome by each of the ways from outside; records are given as lists. -/
theorem coherent_of_grid_documents :
    let grid : Analysis := ⟨.css, [⟨"grid", .baseline, true⟩], ⟨1, 1, 0, 0⟩⟩
    let text := "[\"CSS\",[[\"grid\",\"baseline\",true]],[1,1,0,0]]"
    let item := "[\"1\",\"c\"," ++ text ++ ",\"2024-01-01T00:00:00Z\",\"c\"]"
    let bookmark := "[\"1\",\"n\",\"c\"," ++ text ++ ",\"2024-01-01T00:00:00Z\",\"c\"]"
    let report := "[\"2024-01-01T00:00:00Z\",\"CSS\",[1,1,0,0],[[\"grid\",\"baseline\",true]]]"
    let day : Instant := ⟨1704067200, 0⟩
    let kept : HistoryItem := ⟨"1", "c", grid, day, "c"⟩
    let saved : Bookmark := ⟨"1", "n", "c", some grid, day, "c"⟩
    (grid.check = .ok grid ∧ grid.Coherent) ∧
      (shape.decode ofJson? text = some grid ∧ grid.Coherent) ∧
      (HistoryItem.shape.decode HistoryItem.ofJson? item = some kept ∧ kept.results.Coherent) ∧
      (Bookmark.shape.decode Bookmark.ofJson? bookmark = some saved ∧
        ∀ a, saved.results = some a → a.Coherent) ∧
      (Kept.ofDocument? ("[" ++ item ++ "]") = some [kept] ∧ kept.results.Coherent) ∧
      (Kept.ofDocument? ("[" ++ bookmark ++ "]") = some [saved] ∧
        ∀ a, saved.results = some a → a.Coherent) ∧
      Export.read report = .ok ⟨day, grid⟩ ∧ (Export.mk day grid).outcome = .ok grid ∧
      grid.Coherent := by
  intro grid text item bookmark report day kept saved
  obtain ⟨_, _, _, ofParts, ofText, ofItem, ofBookmark, ofItems, ofBookmarks, ofReport⟩ :=
    coherent_of_any_origin
  have checked : grid.check = .ok grid := by decide
  have readText : shape.decode ofJson? text = some grid := by decide +kernel
  have readItem : HistoryItem.shape.decode HistoryItem.ofJson? item = some kept := by
    decide +kernel
  have readBookmark : Bookmark.shape.decode Bookmark.ofJson? bookmark = some saved := by
    decide +kernel
  have readItems : Kept.ofDocument? ("[" ++ item ++ "]") = some [kept] := by decide +kernel
  have readBookmarks : Kept.ofDocument? ("[" ++ bookmark ++ "]") = some [saved] := by
    decide +kernel
  have readReport : Export.read report = .ok ⟨day, grid⟩ := by decide +kernel
  have outcome : (Export.mk day grid).outcome = .ok grid := by decide
  exact ⟨⟨checked, ofParts grid grid checked⟩, ⟨readText, ofText text grid readText⟩,
    ⟨readItem, ofItem item kept readItem⟩,
    ⟨readBookmark, fun a => ofBookmark bookmark saved a readBookmark⟩,
    ⟨readItems, ofItems _ [kept] readItems kept List.mem_cons_self⟩,
    ⟨readBookmarks, ofBookmarks _ [saved] readBookmarks saved List.mem_cons_self⟩,
    readReport, outcome, ofReport report ⟨day, grid⟩ grid readReport outcome⟩

end Analysis
end FeatureScan
