import FeatureScan.Proofs.BookmarkRuns
import FeatureScan.Proofs.HistoryRuns
import FeatureScan.Proofs.StoreAgreement

/-!
What a store in a directory lists after any run of its writers. The directory is followed only as
far as the map that it agrees with, so files of other names may stand in it, and what is said of
the map is what was said of any store.
-/

namespace FeatureScan

open Store (TakesKey draftName fileEnding fileName files)

namespace StoreStep

/-- The history and the shelf that a directory keeps are those that the steps leave, whatever the
texts under other keys. -/
theorem lists_of_files_run {σ : Type} [FileSystem (StateM σ)] {root : Path}
    {Names : String → Prop} {Shows : σ → Folder → Prop} (law : KeepsFolder root Names Shows)
    (history : TakesKey Names (Kept.key HistoryItem)) (shelf : TakesKey Names (Kept.key Bookmark))
    {st : σ} {dir : Folder} (shows : Shows st dir) (bare : dir.Agrees .empty)
    {steps : List StoreStep}
    (records : ∀ a ∈ steps, a.RecordsMade ∧ a.Avoids (Kept.key HistoryItem))
    (saves : ∀ a ∈ steps, a.SavesMade ∧ a.Avoids (Kept.key Bookmark))
    (takes : ∀ a ∈ steps, TakesKey Names a.target) :
    let after := runAll (files root) steps st
    (Store.run (History.list (files root)) after).1 =
        .ok ((Kept.newest (sinceClear steps)).take History.limit) ∧
      (Store.run (Bookmarks.list (files root)) after).1 = .ok (standing steps) := by
  intro after
  have map := Store.files_implements law
  have holds : Store.ShowsMap Shows after (effects steps .empty) :=
    holds_runAll map takes ⟨dir, shows, bare⟩
  constructor
  · rw [(History.yields_list map.getsAndSets history _).answer holds, (items_effects records).2]
  · rw [(Bookmarks.yields_list map.getsAndSets shelf _).answer holds, (bookmarks_effects saves).2]

end StoreStep

namespace Disk

theorem isName_of_append {key ending : String} (long : 2 < ending.utf8ByteSize)
    (short : key.utf8ByteSize + ending.utf8ByteSize ≤ longestName) : IsName (key ++ ending) := by
  have size : (key ++ ending).utf8ByteSize = key.utf8ByteSize + ending.utf8ByteSize :=
    String.utf8ByteSize_append
  have other : ∀ name : String, name.utf8ByteSize ≤ 2 → key ++ ending ≠ name := by
    rintro name small rfl
    omega
  exact ⟨other "" (by decide), other "." (by decide), other ".." (by decide), size ▸ short⟩

/-- A disk takes the keys whose drafts have names that are not too long. -/
theorem takesKey_of_short {key : String}
    (short : key.utf8ByteSize + (fileEnding ++ ".tmp").utf8ByteSize ≤ longestName) :
    TakesKey IsName key := by
  intro _
  have draft : draftName key = key ++ (fileEnding ++ ".tmp") := String.append_assoc
  have less : fileEnding.utf8ByteSize ≤ (fileEnding ++ ".tmp").utf8ByteSize := by decide
  rw [fileName, draft]
  exact ⟨isName_of_append (by decide) (by omega), isName_of_append (by decide) short⟩

/-- A run on a disk where the directory is not made yet. -/
theorem lists_of_run {root : Path} (plain : IsPlain root) {d : Disk}
    (shows : Shows root d .missing) {steps : List StoreStep}
    (records : ∀ a ∈ steps, a.RecordsMade ∧ a.Avoids (Kept.key HistoryItem))
    (saves : ∀ a ∈ steps, a.SavesMade ∧ a.Avoids (Kept.key Bookmark))
    (short : ∀ a ∈ steps,
      a.target.utf8ByteSize + (fileEnding ++ ".tmp").utf8ByteSize ≤ longestName) :
    let after := StoreStep.runAll (Store.files root) steps d
    (Store.run (History.list (Store.files root)) after).1 =
        .ok ((Kept.newest (StoreStep.sinceClear steps)).take History.limit) ∧
      (Store.run (Bookmarks.list (Store.files root)) after).1 = .ok (StoreStep.standing steps) :=
  StoreStep.lists_of_files_run (keepsFolder plain) (takesKey_of_short (by decide))
    (takesKey_of_short (by decide)) shows ⟨fun _ _ => rfl, nofun, nofun⟩ records saves
    fun a ha => takesKey_of_short (short a ha)

example :
    let root : Path := ⟨false, ["data"]⟩
    let mark : Bookmark := .new "a" ⟨0, 0⟩ "name" "g" none
    let steps : List StoreStep := [.saveBookmark mark, .set "draft" "[]", .clear, .remove "b"]
    let after := StoreStep.runAll (Store.files root) steps empty
    (Store.run (Bookmarks.list (Store.files root)) after).1 = .ok [mark] := by
  decide +kernel

end Disk
end FeatureScan
