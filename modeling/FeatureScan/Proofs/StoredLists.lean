import FeatureScan.Proofs.BookmarkRuns
import FeatureScan.Proofs.HistoryRuns

/-!
The lists of kept entries survive the store. A text that cannot be read counts as an empty
list, and the next write would then drop everything that was kept; no write of the program
leaves such a text.
-/

namespace FeatureScan

variable {σ : Type} {s : Store (StateM σ)} {Holds : σ → Dictionary String → Prop}

namespace Kept

section

variable {α : Type} [Kept α]

/-- A list that is written under the key is read from there as it was. -/
structure Survives (s : Store (StateM σ)) (st : σ) (key : String) (entries : List α) : Prop where
  written : (Store.run (setList s key entries) st).1 = .ok ()
  read : (Store.run (getList s key) (Store.run (setList s key entries) st).2).1 =
    .ok (some entries)

/-- The list of the kind is what is found under its key: it is empty only if an empty list
is there or nothing is, not because of a fault. -/
def Readable (α : Type) [Kept α] (s : Store (StateM σ)) (st : σ) : Prop :=
  ∃ found : Option (List α), (Store.run (getList s (key α)) st).1 = .ok found ∧
    (Store.run (load s) st).1 = .ok (found.getD [])

variable [LawfulKept α] {entries : List α}

theorem survives (map : s.Implements Holds) {st : σ} {d : Dictionary String} (h : Holds st d)
    {key' : String} (valid : isKey key' = true)
    (storable : ∀ e ∈ entries, LawfulKept.Storable e) : Survives s st key' entries := by
  have writes := yields_setList map.getsAndSets (d := d) valid trivial entries
  have present := Dictionary.get?_insert_self d key' (toDocument entries).compact
  have reads := yields_getList_some map.getsAndSets valid trivial present
    (ofDocument?_toDocument storable)
  exact ⟨writes.answer h, reads.answer (writes.holds h)⟩

theorem load_save (map : s.Implements Holds) {st : σ} {d : Dictionary String} (h : Holds st d)
    (storable : ∀ e ∈ entries, LawfulKept.Storable e) :
    (Store.run (load s) (Store.run (save s entries) st).2).1 = .ok entries := by
  have saves := yields_save map.getsAndSets trivial entries d
  rw [(yields_load map.getsAndSets trivial _).answer (saves.holds h), stored_put storable]

theorem Written.readable (map : s.Implements Holds) {st : σ} {d : Dictionary String}
    (h : Holds st d) (written : Written α d) : Readable α s st := by
  have valid : isKey (key α) = true := LawfulKept.isKey_key
  have loaded : (Store.run (load s) st).1 = .ok (stored α d) :=
    (yields_load map.getsAndSets trivial d).answer h
  cases present : d.get? (key α) with
  | none =>
      refine ⟨none, (yields_getList_none map.getsAndSets valid trivial present).answer h, ?_⟩
      rw [loaded, stored, present]
      rfl
  | some text =>
      have reads := yields_getList_some map.getsAndSets valid trivial present
        (written.ofDocument? present)
      exact ⟨some (stored α d), reads.answer h, loaded⟩

end

/-- Lists of entries with outcomes of the program are read back whole and in order, under
any valid key. After a run that began with nothing, a list that only the program itself has
written can be read, so it is not taken for empty. -/
theorem kept_lists_survive (map : s.Implements Holds) :
    (∀ st d, Holds st d →
      (∀ items : List HistoryItem, (∀ item ∈ items, item.Made) →
        (∀ key, isKey key = true → Survives s st key items) ∧
          (Store.run (load s) (Store.run (save s items) st).2).1 = .ok items) ∧
      ∀ bookmarks : List Bookmark, (∀ b ∈ bookmarks, b.Made) →
        (∀ key, isKey key = true → Survives s st key bookmarks) ∧
          (Store.run (load s) (Store.run (save s bookmarks) st).2).1 = .ok bookmarks) ∧
    ∀ st, Holds st .empty → ∀ steps : List StoreStep,
      ((∀ a ∈ steps, a.RecordsMade ∧ a.Avoids (key HistoryItem)) →
        Readable HistoryItem s (StoreStep.runAll s steps st)) ∧
      ((∀ a ∈ steps, a.SavesMade ∧ a.Avoids (key Bookmark)) →
        Readable Bookmark s (StoreStep.runAll s steps st)) := by
  refine ⟨fun st d h => ⟨fun items made => ?_, fun bookmarks made => ?_⟩, ?_⟩
  · have storable : ∀ item ∈ items, LawfulKept.Storable item :=
      fun item mem => (made item mem).storable
    exact ⟨fun key valid => survives map h valid storable, load_save map h storable⟩
  · have storable : ∀ b ∈ bookmarks, LawfulKept.Storable b := fun b mem => (made b mem).storable
    exact ⟨fun key valid => survives map h valid storable, load_save map h storable⟩
  · intro st start steps
    have holds : Holds (StoreStep.runAll s steps st) (StoreStep.effects steps .empty) :=
      StoreStep.holds_runAll map (fun _ _ => trivial) start
    exact ⟨fun allowed => (StoreStep.items_effects allowed).1.readable map holds,
      fun allowed => (StoreStep.bookmarks_effects allowed).1.readable map holds⟩

/-- Lists in memory, where a text that cannot be read is replaced: an item with characters
that are escaped and a leap second, and bookmarks with and without an outcome, at times with
other fractions. -/
theorem kept_lists_survive_in_memory :
    let a : Analysis := .ofFeatures
      ([("\x00\"\\", .baseline), ("grid", .unknown)].map fun f => .detected f.1 f.2)
    let c : Catalog := Catalog.empty.register ⟨"grid", .css, [.anywhere (.word ['g'])]⟩
    let items : List HistoryItem :=
      [.new "\u2028" ⟨1483228799, 1123456789⟩ "\x08g" (c.analyze "\x08g" .empty),
        .new "" ⟨-70000000000, 5000⟩ "\n" a]
    let bookmarks : List Bookmark :=
      [.new "a" ⟨0, 0⟩ "\"" "" none, .new "b" ⟨0, 7000000⟩ "null" "g" (some a)]
    let corrupt : Dictionary String := Dictionary.empty.insert (key HistoryItem) "["
    (Store.run (History.list .memory) corrupt).1 = .ok [] ∧
      Survives .memory corrupt "other-list" items ∧
      (Store.run (History.list .memory) (Store.run (save .memory items) corrupt).2).1 = .ok items ∧
      Survives .memory corrupt (key Bookmark) bookmarks ∧
      Readable HistoryItem .memory (StoreStep.runAll .memory (items.map .record) .empty) ∧
      Readable Bookmark .memory (StoreStep.runAll .memory (bookmarks.map .saveBookmark) .empty) := by
  intro a c items bookmarks corrupt
  have computed : a.Made := .ofDetected _ (by decide)
  have made : ∀ item ∈ items, item.Made := by
    intro item mem
    simp only [items, List.mem_cons, List.not_mem_nil, or_false] at mem
    rcases mem with rfl | rfl
    · exact ⟨.analyze c _ _ (by decide), by decide⟩
    · exact ⟨computed, by decide⟩
  have marked : ∀ b ∈ bookmarks, b.Made := by
    intro b mem
    simp only [bookmarks, List.mem_cons, List.not_mem_nil, or_false] at mem
    rcases mem with rfl | rfl
    · exact ⟨nofun, by decide⟩
    · exact ⟨fun _ same => Option.some.inj same ▸ computed, by decide⟩
  have records : ∀ step ∈ items.map StoreStep.record,
      step.RecordsMade ∧ step.Avoids (key HistoryItem) := by
    intro step mem
    obtain ⟨item, listed, rfl⟩ := List.mem_map.mp mem
    exact ⟨made item listed, trivial⟩
  have saves : ∀ step ∈ bookmarks.map StoreStep.saveBookmark,
      step.SavesMade ∧ step.Avoids (key Bookmark) := by
    intro step mem
    obtain ⟨b, listed, rfl⟩ := List.mem_map.mp mem
    exact ⟨marked b listed, trivial⟩
  obtain ⟨lists, runs⟩ := kept_lists_survive Store.memory_implements
  obtain ⟨survive, load⟩ := (lists corrupt corrupt rfl).1 items made
  have marks := ((lists corrupt corrupt rfl).2 bookmarks marked).1
  exact ⟨by decide +kernel, survive _ (by decide), load, marks _ (by decide),
    (runs .empty rfl _).1 records, (runs .empty rfl _).2 saves⟩

end Kept
end FeatureScan
