import FeatureScan.Proofs.DiskFolder
import FeatureScan.Proofs.FolderStore

/-!
Files of keys whose names a file system does not take. Where the directory is there, a store
answers calls with such keys by what the file system refuses them with, and nothing is changed.
-/

namespace FeatureScan

open Store (fileName draftName files)

section

variable {σ : Type} {root : Path} {Names : String → Prop} {Shows : σ → Folder → Prop}

/-- In a directory that is there, the file system refuses each file of a key whose name it does
not take, always in the same way, and changes nothing. -/
structure RefusesOthers [FileSystem (StateM σ)] (root : Path) (Names : String → Prop)
    (Shows : σ → Folder → Prop) : Prop where
  read : ∀ key, isKey key = true → ¬ Names (fileName key) → ∃ fault, ∀ nodes,
    Leads Shows (FileSystem.read (root.child (fileName key))) (.holding nodes) (.error fault)
      (.holding nodes)
  remove : ∀ key, isKey key = true → ¬ Names (fileName key) → ∃ fault, ∀ nodes,
    Leads Shows (FileSystem.perform (.remove (root.child (fileName key)))) (.holding nodes)
      (.error fault) (.holding nodes)
  draft : ∀ key text, isKey key = true → ¬ Names (draftName key) → ∃ fault, ∀ nodes,
    Leads Shows (FileSystem.perform (.write (root.child (draftName key)) text)) (.holding nodes)
      (.error fault) (.holding nodes)
  /-- The name of a draft is the longer one. -/
  file : ∀ key, Names (draftName key) → Names (fileName key)

namespace RefusesOthers

variable [FileSystem (StateM σ)] (refuses : RefusesOthers root Names Shows)
include refuses

theorem leads_get {key : String} (valid : isKey key = true) (other : ¬ Names (fileName key)) :
    ∃ r, ∀ nodes,
      Leads Shows ((files root).get key).run (.holding nodes) r (.holding nodes) := by
  obtain ⟨fault, refused⟩ := refuses.read key valid other
  exact ⟨_, fun nodes => KeepsFolder.leads_get_of_read valid (refused nodes)⟩

theorem leads_remove {key : String} (valid : isKey key = true) (other : ¬ Names (fileName key)) :
    ∃ r, ∀ nodes,
      Leads Shows ((files root).remove key).run (.holding nodes) r (.holding nodes) := by
  obtain ⟨fault, refused⟩ := refuses.remove key valid other
  exact ⟨_, fun nodes => KeepsFolder.leads_remove_of_step valid (refused nodes)⟩

/-- The directory is made and nothing is written. -/
theorem leads_set (law : KeepsFolder root Names Shows) {key : String} (valid : isKey key = true)
    (other : ¬ Names (draftName key)) (text : String) :
    ∃ r, ∀ nodes,
      Leads Shows ((files root).set key text).run (.holding nodes) r (.holding nodes) := by
  obtain ⟨fault, refused⟩ := refuses.draft key text valid other
  have steps : ∀ nodes, Leads Shows (FileSystem.performAll (Store.setSteps root key text))
      (.holding nodes) (.error fault) (.holding nodes) := by
    intro nodes
    have made : Leads Shows (FileSystem.perform (.createDirs root)) (.holding nodes) (.ok ())
        (.holding nodes) := law.perform (.holding nodes) .create (by simp [FolderStep.names]) rfl
    exact made.bind ((refused nodes).bind (leads_pure _ _))
  exact ⟨_, fun nodes => KeepsFolder.leads_set_of_steps valid (steps nodes)⟩

theorem leads_perform (law : KeepsFolder root Names Shows) {c : StoreCall}
    (unfit : ¬ c.Fits Names) :
    ∃ r, ∀ {dir : Folder}, dir ≠ .missing → Leads Shows (c.perform (files root)).run dir r dir := by
  have holding : ∀ {r : Except StoreFault StoreAnswer}, (∀ nodes,
      Leads Shows (c.perform (files root)).run (.holding nodes) r (.holding nodes)) →
      ∀ {dir : Folder}, dir ≠ .missing → Leads Shows (c.perform (files root)).run dir r dir := by
    rintro r refused (_ | nodes) there
    · exact absurd rfl there
    · exact refused nodes
  cases c with
  | get key =>
      obtain ⟨valid, other⟩ := Classical.not_imp.mp unfit
      obtain ⟨r, refused⟩ := refuses.leads_get valid other
      exact ⟨_, holding fun nodes => KeepsFolder.leads_map (refused nodes) StoreAnswer.text⟩
  | set key text =>
      obtain ⟨valid, other⟩ := Classical.not_imp.mp unfit
      have draft : ¬ Names (draftName key) := fun named => other ⟨refuses.file key named, named⟩
      obtain ⟨r, refused⟩ := refuses.leads_set law valid draft text
      exact ⟨_, holding fun nodes => KeepsFolder.leads_map (refused nodes) fun _ => StoreAnswer.done⟩
  | remove key =>
      obtain ⟨valid, other⟩ := Classical.not_imp.mp unfit
      obtain ⟨r, refused⟩ := refuses.leads_remove valid other
      exact ⟨_, holding fun nodes => KeepsFolder.leads_map (refused nodes) fun _ => StoreAnswer.done⟩
  | keys => exact absurd trivial unfit

end RefusesOthers

end

namespace Disk

variable {root : Path}

theorem overlong_of_not_isName {name : String} (many : 2 < name.length) (other : ¬ IsName name) :
    longestName < name.utf8ByteSize := by
  by_contra short
  refine other ⟨?_, ?_, ?_, Nat.not_lt.mp short⟩ <;> rintro rfl <;> revert many <;> decide

/-- A disk refuses every name that is too long. -/
theorem refusesOthers (plain : IsPlain root) : RefusesOthers root IsName (Shows root) := by
  have file_long : ∀ key, 2 < (Store.fileName key).length := fun key => by
    rw [Store.fileName, String.length_append]
    exact Nat.lt_add_left _ (by decide)
  have draft_long : ∀ key, 2 < (Store.draftName key).length := fun key => by
    rw [Store.draftName, String.length_append]
    exact Nat.lt_add_right _ (file_long key)
  refine ⟨fun key _ other => ⟨.nameTooLong, fun nodes d shows => ?_⟩,
    fun key _ other => ⟨.nameTooLong, fun nodes d shows => ?_⟩,
    fun key text _ other => ⟨.nameTooLong, fun nodes d shows => ?_⟩, fun key named => ?_⟩
  · have refused := shows.read_overlong plain (overlong_of_not_isName (file_long key) other)
    exact ⟨d, congrArg (·, d) refused, shows⟩
  · have refused := shows.remove_overlong plain (overlong_of_not_isName (file_long key) other)
    exact ⟨d, by rw [run_perform, refused], shows⟩
  · have refused := shows.write_overlong plain (overlong_of_not_isName (draft_long key) other) text
    exact ⟨d, by rw [run_perform, refused], shows⟩
  · by_contra other
    have shorter : (Store.fileName key).utf8ByteSize ≤ (Store.draftName key).utf8ByteSize := by
      rw [Store.draftName, ← Store.fileName, String.utf8ByteSize_append]
      exact Nat.le_add_right _ _
    have long := overlong_of_not_isName (file_long key) other
    exact named.fits (Nat.lt_of_lt_of_le long shorter)

end Disk
end FeatureScan
