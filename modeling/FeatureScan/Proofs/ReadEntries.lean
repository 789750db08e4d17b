import FeatureScan.Proofs.InstantReading
import FeatureScan.Proofs.KeptCodec

/-!
What is read from a document can be written to one again, so a list that was read loses nothing
when the program writes it back. The check of an outcome and the reader of instants see to it; the
features of an outcome can be counted because its total was read as a count.
-/

namespace FeatureScan

theorem Instant.regular_of_ofJson? {v : Json} {t : Instant} (read : ofJson? v = some t) :
    t.Regular := by
  obtain ⟨s, _, text⟩ := Option.bind_eq_some_iff.mp read
  exact regular_of_read? text

theorem Summary.total_le_of_admits {v : Json} {s : Summary} (h : shape.Admits v)
    (read : ofJson? v = some s) : s.total ≤ Json.greatestWhole := by
  simp only [ofJson?, Option.bind_eq_bind, Option.bind_eq_some_iff] at read
  obtain ⟨total, counted, _, _, _, _, _, _, same⟩ := read
  cases same
  obtain ⟨w, ⟨n, fits, rfl⟩, number⟩ :=
    Json.memberAs_of_admits h (by decide) (s := .count) (by simp) counted
  cases number
  exact fits

theorem Analysis.storable_of_admits {v : Json} {a : Analysis} (h : shape.Admits v)
    (read : ofJson? v = some a) : a.Storable := by
  obtain ⟨b, checked⟩ := check_of_admits h read
  obtain ⟨_, sound, found⟩ := check_eq_ok.mp checked
  refine ⟨sound, found, ?_⟩
  rw [← sound.coherent.total_eq]
  simp only [ofJson?, Option.bind_eq_bind, Option.bind_eq_some_iff] at read
  obtain ⟨_, _, _, _, summary, hs, same⟩ := read
  cases same
  obtain ⟨w, admits, hw⟩ :=
    Json.memberAs_of_admits h.1 (by decide) (s := Summary.shape) (by simp) hs
  exact Summary.total_le_of_admits admits hw

theorem HistoryItem.storable_of_admits {v : Json} {item : HistoryItem} (h : shape.Admits v)
    (read : ofJson? v = some item) : item.Storable := by
  obtain ⟨w, admits, hw⟩ := results_of_admits h read
  refine ⟨Analysis.storable_of_admits admits hw, ?_⟩
  simp only [ofJson?, Option.bind_eq_bind, Option.bind_eq_some_iff] at read
  obtain ⟨_, _, _, _, _, _, time, ht, _, _, same⟩ := read
  cases same
  obtain ⟨_, _, named⟩ := Option.bind_eq_some_iff.mp ht
  exact Instant.regular_of_ofJson? named

theorem Bookmark.storable_of_admits {v : Json} {b : Bookmark} (h : shape.Admits v)
    (read : ofJson? v = some b) : b.Storable := by
  constructor
  · intro a present
    obtain ⟨w, admits, hw⟩ := results_of_admits h read present
    exact Analysis.storable_of_admits admits hw
  · simp only [ofJson?, Option.bind_eq_bind, Option.bind_eq_some_iff] at read
    obtain ⟨_, _, _, _, _, _, _, _, time, ht, _, _, same⟩ := read
    cases same
    obtain ⟨_, _, named⟩ := Option.bind_eq_some_iff.mp ht
    exact Instant.regular_of_ofJson? named

/-- A kind of entry that can be written again whenever it was read. -/
class ReadStorable (α : Type) [Kept α] extends LawfulKept α where
  storable_of_admits : ∀ v (e : α), (Kept.shape α).Admits v → Kept.ofJson? v = some e → Storable e

instance : ReadStorable HistoryItem where
  storable_of_admits _ _ := HistoryItem.storable_of_admits

instance : ReadStorable Bookmark where
  storable_of_admits _ _ := Bookmark.storable_of_admits

namespace Kept

variable {α : Type} [Kept α] [ReadStorable α]

theorem storable_of_ofDocument? {text : String} {entries : List α}
    (read : ofDocument? text = some entries) : ∀ e ∈ entries, LawfulKept.Storable e := by
  intro e mem
  obtain ⟨v, admits, same⟩ := admits_of_ofDocument LawfulKept.regular read e mem
  exact ReadStorable.storable_of_admits v e admits same

end Kept
end FeatureScan
