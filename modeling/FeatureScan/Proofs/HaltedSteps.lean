import FeatureScan.Proofs.FolderStore

/-!
Steps that do not come to their end, and what a store sees of a directory in which some were
stopped: a store cannot tell two directories apart that differ only in what is drafted.
-/

namespace FeatureScan

/-- What a step may leave that is stopped on its way. A file may hold any part of what was to be
written, also one that ends within a character. A name is given at once or not at all. -/
def FolderStep.Leaves (dir : Folder) : FolderStep → Folder → Prop
  | .create, dir' => dir' = dir ∨ dir' = dir.create
  | .write name _, dir' => dir' = dir ∨
      ∃ node, node ≠ .dir ∧ dir.node? name ≠ some .dir ∧ dir' = dir.put name node
  | .rename _ _, dir' | .remove _, dir' => dir' = dir

theorem FolderStep.Leaves.untouched (step : FolderStep) (dir : Folder) : step.Leaves dir dir := by
  cases step with
  | create | write => exact .inl rfl
  | rename | remove => rfl

theorem FolderStep.Leaves.ne_missing {step : FolderStep} {dir dir' : Folder}
    (left : step.Leaves dir dir') (there : dir ≠ .missing) : dir' ≠ .missing := by
  cases step with
  | create => rcases left with rfl | rfl <;> [exact there; exact nofun]
  | write => rcases left with rfl | ⟨_, _, _, rfl⟩ <;> [exact there; exact nofun]
  | rename | remove => exact left ▸ there

/-- The steps come to a stop after the first `n` of them, maybe on the way of the next one. -/
def StopsAfter : Nat → List FolderStep → Folder → Folder → Prop
  | 0, [], dir, dir' => dir' = dir
  | 0, step :: _, dir, dir' => step.Leaves dir dir'
  | _ + 1, [], _, _ => False
  | n + 1, step :: rest, dir, dir' =>
      ∃ next, dir.perform step = .ok next ∧ StopsAfter n rest next dir'

section

variable {σ : Type} {root : Path} {Names : String → Prop} {Shows : σ → Folder → Prop}

/-- Each of the steps may fail on a file system and then leave what a step leaves that is stopped
on its way. -/
def MayFail (fs : FileSystem (StateM σ)) (root : Path) (Shows : σ → Folder → Prop)
    (steps : List FolderStep) : Prop :=
  ∀ step ∈ steps, ∀ dir st, Shows st dir → step.movesDir dir = false →
    match (fs.perform (step.under root)).run st with
    | (.ok (), st') => ∃ dir', dir.perform step = .ok dir' ∧ Shows st' dir'
    | (.error _, st') => ∃ dir', step.Leaves dir dir' ∧ Shows st' dir'

/-- A file system that does not fail is one that may. -/
theorem KeepsFolder.mayFail [system : FileSystem (StateM σ)] {steps : List FolderStep}
    (law : KeepsFolder root Names Shows)
    (names : ∀ step ∈ steps, ∀ name ∈ step.names, Names name) : MayFail system root Shows steps := by
  intro step hs dir st shows still
  obtain ⟨st', performed, shows'⟩ := law.perform dir step (names step hs) still st shows
  rw [performed]
  cases result : dir.perform step with
  | ok dir' =>
      rw [result] at shows'
      exact ⟨dir', rfl, shows'⟩
  | error fault =>
      rw [result] at shows'
      exact ⟨dir, .untouched step dir, shows'⟩

end

namespace Folder

open Store

/-- A store cannot tell the two directories apart: it finds the same files, and directories in the
places of the same drafts. -/
structure Alike (dir dir' : Folder) : Prop where
  files : ∀ key, isKey key = true → dir.node? (fileName key) = dir'.node? (fileName key)
  drafts : ∀ key, isKey key = true →
    (dir.node? (draftName key) = some .dir ↔ dir'.node? (draftName key) = some .dir)

namespace Alike

variable {dir dir' dir'' : Folder}

theorem refl (dir : Folder) : dir.Alike dir := ⟨fun _ _ => rfl, fun _ _ => Iff.rfl⟩

theorem symm (h : dir.Alike dir') : dir'.Alike dir :=
  ⟨fun key valid => (h.files key valid).symm, fun key valid => (h.drafts key valid).symm⟩

theorem trans (h : dir.Alike dir') (h' : dir'.Alike dir'') : dir.Alike dir'' :=
  ⟨fun key valid => (h.files key valid).trans (h'.files key valid),
    fun key valid => (h.drafts key valid).trans (h'.drafts key valid)⟩

theorem create (dir : Folder) : dir.Alike dir.create where
  files _ _ := (node?_create dir _).symm
  drafts _ _ := by rw [node?_create]

theorem draft (key : String) {node : Node} (file : node ≠ .dir)
    (free : dir.node? (draftName key) ≠ some .dir) : dir.Alike (dir.put (draftName key) node) where
  files other _ := (node?_put_of_ne dir node (draftName_ne_fileName key other)).symm
  drafts other _ := by
    rw [node?_put]
    split
    next same =>
      rw [← same]
      exact ⟨fun blocked => absurd blocked free, fun same => absurd (Option.some.inj same) file⟩
    next => rfl

theorem drafted (key text : String) (free : dir.node? (draftName key) ≠ some .dir) :
    dir.Alike (dir.create.put (draftName key) (.text text)) :=
  (create dir).trans (draft key (by simp) (by rwa [node?_create]))

variable (h : dir.Alike dir')
include h

theorem get_eq (key : String) : dir.get key = dir'.get key := by
  unfold Folder.get
  split
  next valid => rw [read, read, h.files key valid]
  next => rfl

theorem keys_eq : dir.keys = dir'.keys := by
  refine mergeSort_eq_of_perm
    ((List.perm_ext_iff_of_nodup dir.fileKeys_nodup dir'.fileKeys_nodup).mpr fun key => ?_)
  rw [mem_fileKeys, mem_fileKeys]
  exact and_congr_right fun valid => by rw [h.files key valid]

theorem stored (key text : String) : (dir.stored key text).Alike (dir'.stored key text) where
  files other valid := by
    rw [node?_stored_fileName, node?_stored_fileName, h.files other valid]
  drafts other valid := by
    rw [node?_stored_draftName, node?_stored_draftName]
    split
    · rfl
    · exact h.drafts other valid

theorem set (key text : String) :
    (dir.set key text).1 = (dir'.set key text).1 ∧ (dir.set key text).2.Alike (dir'.set key text).2 := by
  unfold Folder.set
  split
  next valid =>
    rw [performAll_setSteps, performAll_setSteps, h.files key valid]
    simp only [h.drafts key valid]
    by_cases blocked : dir'.node? (draftName key) = some .dir
    · simp only [if_pos blocked]
      exact ⟨trivial, (create dir).symm.trans (h.trans (create dir'))⟩
    · have free : dir.node? (draftName key) ≠ some .dir := mt (h.drafts key valid).mp blocked
      simp only [if_neg blocked]
      by_cases file : dir'.node? (fileName key) = some .dir
      · simp only [if_pos file]
        exact ⟨trivial, (drafted key text free).symm.trans (h.trans (drafted key text blocked))⟩
      · simp only [if_neg file]
        exact ⟨trivial, h.stored key text⟩
  next => exact ⟨rfl, h⟩

theorem erase (key : String) : (dir.erase (fileName key)).Alike (dir'.erase (fileName key)) where
  files other valid := by
    rw [node?_erase, node?_erase, h.files other valid]
  drafts other valid := by
    have apart := (draftName_ne_fileName other key).symm
    rw [node?_erase_of_ne _ apart, node?_erase_of_ne _ apart]
    exact h.drafts other valid

theorem remove (key : String) :
    (dir.remove key).1 = (dir'.remove key).1 ∧ (dir.remove key).2.Alike (dir'.remove key).2 := by
  unfold Folder.remove
  split
  next valid =>
    simp only [perform, h.files key valid]
    rcases dir'.node? (fileName key) with _ | _ | _ | _
    · exact ⟨rfl, h⟩
    · exact ⟨rfl, h⟩
    · exact ⟨rfl, h.erase key⟩
    · exact ⟨rfl, h.erase key⟩
  next => exact ⟨rfl, h⟩

/-- Alike directories give the same answer to a call and are left alike. -/
theorem call (c : StoreCall) :
    (dir.call c).1 = (dir'.call c).1 ∧ (dir.call c).2.Alike (dir'.call c).2 := by
  cases c with
  | get key =>
      rw [Folder.call, Folder.call, h.get_eq key]
      exact ⟨rfl, h⟩
  | set key text =>
      rw [Folder.call, Folder.call, (h.set key text).1]
      exact ⟨rfl, (h.set key text).2⟩
  | remove key =>
      rw [Folder.call, Folder.call, (h.remove key).1]
      exact ⟨rfl, (h.remove key).2⟩
  | keys =>
      rw [Folder.call, Folder.call, h.keys_eq]
      exact ⟨rfl, h⟩

end Alike

theorem perform_ne_missing {dir next : Folder} {step : FolderStep} (there : dir ≠ .missing)
    (done : dir.perform step = .ok next) : next ≠ .missing := by
  cases dir with
  | missing => exact absurd rfl there
  | holding nodes =>
      cases step <;> grind [perform, Folder.create, put, Folder.erase]

theorem ne_missing_of_stopsAfter {n : Nat} {steps : List FolderStep} {dir dir' : Folder}
    (stopped : StopsAfter n steps dir dir') (there : dir ≠ .missing) : dir' ≠ .missing := by
  induction steps generalizing n dir with
  | nil =>
      cases n with
      | zero => exact stopped ▸ there
      | succ n => exact stopped.elim
  | cons step rest ih =>
      cases n with
      | zero => exact stopped.ne_missing there
      | succ n =>
          obtain ⟨next, done, later⟩ := stopped
          exact ih later (perform_ne_missing there done)

theorem performAll_ne_missing {dir : Folder} (there : dir ≠ .missing) (steps : List FolderStep) :
    (dir.performAll steps).2 ≠ .missing := by
  induction steps generalizing dir with
  | nil => exact there
  | cons step rest ih =>
      rw [performAll]
      cases done : dir.perform step with
      | ok next => exact ih (perform_ne_missing there done)
      | error fault => exact there

theorem call_ne_missing {dir : Folder} (there : dir ≠ .missing) (c : StoreCall) :
    (dir.call c).2 ≠ .missing := by
  cases c with
  | get | keys => exact there
  | set key text =>
      have performed := performAll_ne_missing there (setSteps key text)
      change (dir.set key text).2 ≠ .missing
      rw [Folder.set]
      split
      · generalize dir.performAll (setSteps key text) = outcome at performed
        rcases outcome with ⟨_ | _, dir'⟩ <;> exact performed
      · exact there
  | remove key =>
      change (dir.remove key).2 ≠ .missing
      rw [Folder.remove]
      split
      · cases done : dir.perform (.remove (fileName key)) with
        | ok next => exact perform_ne_missing there done
        | error fault => cases fault <;> exact there
      · exact there

theorem perform_draft_eq_ok {dir next : Folder} {key text : String}
    (done : dir.create.perform (.write (draftName key) text) = .ok next) :
    dir.node? (draftName key) ≠ some .dir ∧ next = dir.create.put (draftName key) (.text text) := by
  obtain ⟨free, same⟩ := perform_write_eq_ok done
  rw [node?_create] at free
  exact ⟨free, same⟩

/-- Before the draft is renamed the directory is alike. -/
theorem alike_of_stopsAfter {n : Nat} {dir dir' : Folder} {key text : String}
    (stopped : StopsAfter n (setSteps key text) dir dir') (early : n < 3) : dir.Alike dir' := by
  match n, stopped with
  | 0, .inl same => exact same ▸ .refl dir
  | 0, .inr made => exact made ▸ .create dir
  | 1, ⟨_, rfl, .inl same⟩ => exact same ▸ .create dir
  | 1, ⟨_, rfl, .inr ⟨node, file, free, part⟩⟩ =>
      exact part ▸ (Alike.create dir).trans (.draft key file free)
  | 2, ⟨_, rfl, next, done, same⟩ =>
      obtain ⟨free, rfl⟩ := perform_draft_eq_ok done
      exact same ▸ .drafted key text free

theorem le_of_stopsAfter {n : Nat} {steps : List FolderStep} {dir dir' : Folder}
    (stopped : StopsAfter n steps dir dir') : n ≤ steps.length := by
  induction steps generalizing n dir with
  | nil =>
      cases n with
      | zero => exact Nat.le_refl 0
      | succ n => exact stopped.elim
  | cons step rest ih =>
      cases n with
      | zero => exact Nat.zero_le _
      | succ n =>
          obtain ⟨next, _, later⟩ := stopped
          exact Nat.succ_le_succ (ih later)

theorem eq_stored_of_stopsAfter {dir dir' : Folder} {key text : String}
    (stopped : StopsAfter 3 (setSteps key text) dir dir') : dir' = dir.stored key text := by
  obtain ⟨_, made, next, done, last, renamed, same⟩ := stopped
  cases made
  obtain ⟨_, rfl⟩ := perform_draft_eq_ok done
  rw [perform_rename_draft] at renamed
  split at renamed
  next => cases renamed
  next => exact same.trans (Except.ok.inj renamed).symm

end Folder

theorem Path.child_inj {root : Path} {name other : String} :
    root.child name = root.child other ↔ name = other := by
  refine ⟨fun same => ?_, congrArg root.child⟩
  have parts : root.names ++ [name] = root.names ++ [other] := congrArg Path.parts same
  exact List.singleton_inj.mp (List.append_cancel_left parts)

theorem FolderStep.under_injective (root : Path) : Function.Injective (FolderStep.under root) := by
  intro step step' same
  cases step <;> cases step' <;> simp_all [under, Path.child_inj]

end FeatureScan
