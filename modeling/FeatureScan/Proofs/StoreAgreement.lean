import FeatureScan.Proofs.DiskFolder
import FeatureScan.Proofs.FolderStore

/-!
A store in a directory gives the answers of a store in memory. Files that are not those of a key
are never taken for one, a missing directory is an empty store, and the order in which the
directory is listed is lost.
-/

namespace FeatureScan

/-- The directory holds a file for each key of the map, with the text of the key. Besides there
may be other files, also where texts are drafted. -/
structure Folder.Agrees (dir : Folder) (d : Dictionary String) : Prop where
  files : ∀ key, isKey key = true →
    dir.node? (Store.fileName key) = (d.get? key).map Node.text
  keys : ∀ key, (d.get? key).isSome = true → isKey key = true
  drafts : ∀ key, isKey key = true → dir.node? (Store.draftName key) ≠ some .dir

namespace Folder.Agrees

open Store

variable {dir : Folder} {d : Dictionary String} (agrees : dir.Agrees d)
include agrees

theorem file_ne_dir {key : String} (valid : isKey key = true) :
    dir.node? (fileName key) ≠ some .dir := by
  rw [agrees.files key valid]
  cases d.get? key <;> simp

theorem get_eq {key : String} (valid : isKey key = true) : dir.get key = .ok (d.get? key) := by
  rw [Folder.get, if_pos valid, Folder.read, agrees.files key valid]
  cases d.get? key <;> rfl

theorem keys_eq : dir.keys = d.keys := by
  have ordered : d.keys.Pairwise (· ≤ ·) :=
    d.keys_sorted.imp fun lt => String.not_lt.mp (String.lt_asymm lt)
  refine Folder.keys_eq_of_mem d.keys_nodup ordered fun key => ?_
  rw [Dictionary.mem_keys]
  constructor
  · intro known
    have valid := agrees.keys key known
    rw [agrees.files key valid, Option.isSome_map]
    exact ⟨valid, known⟩
  · rintro ⟨valid, there⟩
    rwa [agrees.files key valid, Option.isSome_map] at there

theorem set_eq {key : String} (valid : isKey key = true) (text : String) :
    dir.set key text = (.ok (), dir.stored key text) :=
  set_of_free valid (agrees.drafts key valid) (agrees.file_ne_dir valid) text

theorem stored {key : String} (valid : isKey key = true) (text : String) :
    (dir.stored key text).Agrees (d.insert key text) where
  files other valid' := by
    rw [node?_stored_fileName, Dictionary.get?_insert, agrees.files other valid']
    split <;> rfl
  keys other known := by
    rw [Dictionary.get?_insert] at known
    split at known
    next same => exact same ▸ valid
    next => exact agrees.keys other known
  drafts other valid' := by
    rw [node?_stored_draftName]
    split
    · simp
    · exact agrees.drafts other valid'

theorem erased (key : String) :
    (dir.erase (fileName key)).Agrees (d.erase key) where
  files other valid' := by
    rw [node?_erase, Dictionary.get?_erase, agrees.files other valid']
    simp only [fileName_inj]
    split <;> rfl
  keys other known := by
    rw [Dictionary.get?_erase] at known
    split at known
    next => cases known
    next => exact agrees.keys other known
  drafts other valid' := by
    rw [node?_erase_of_ne _ (draftName_ne_fileName other key).symm]
    exact agrees.drafts other valid'

/-- Where there is no file, the map has nothing to remove either. -/
theorem remove_eq {key : String} (valid : isKey key = true) :
    ∃ dir', dir.remove key = (.ok (), dir') ∧ dir'.Agrees (d.erase key) := by
  rw [Folder.remove, if_pos valid, Folder.perform, agrees.files key valid]
  cases known : d.get? key with
  | some text => exact ⟨_, rfl, agrees.erased key⟩
  | none =>
      refine ⟨dir, rfl, fun other valid' => ?_, fun other known' => ?_, agrees.drafts⟩
      · rw [agrees.files other valid', Dictionary.get?_erase]
        split
        next same => rw [← same, known]
        next => rfl
      · rw [Dictionary.get?_erase] at known'
        split at known'
        next => cases known'
        next => exact agrees.keys other known'

/-- A call has the same answer from the directory and from the map, and the two agree again. -/
theorem call (c : StoreCall) :
    (dir.call c).1 = (run (c.perform memory) d).1 ∧
      (dir.call c).2.Agrees (run (c.perform memory) d).2 := by
  cases c with
  | get key =>
      rw [StoreCall.perform, run_map, Folder.call]
      by_cases valid : isKey key = true
      · rw [run_of_yields (memory_implements.get d key valid trivial), agrees.get_eq valid]
        exact ⟨rfl, agrees⟩
      · rw [run_of_yields (memory_implements.get_invalid d key (eq_false_of_ne_true valid)),
          Folder.get, if_neg valid]
        exact ⟨rfl, agrees⟩
  | set key text =>
      rw [StoreCall.perform, run_map, Folder.call]
      by_cases valid : isKey key = true
      · rw [run_of_yields (memory_implements.set d key text valid trivial), agrees.set_eq valid]
        exact ⟨rfl, agrees.stored valid text⟩
      · rw [run_of_yields (memory_implements.set_invalid d key text (eq_false_of_ne_true valid)),
          Folder.set, if_neg valid]
        exact ⟨rfl, agrees⟩
  | remove key =>
      rw [StoreCall.perform, run_map, Folder.call]
      by_cases valid : isKey key = true
      · obtain ⟨dir', removed, agrees'⟩ := agrees.remove_eq valid
        rw [run_of_yields (memory_implements.remove d key valid trivial), removed]
        exact ⟨rfl, agrees'⟩
      · rw [run_of_yields (memory_implements.remove_invalid d key (eq_false_of_ne_true valid)),
          Folder.remove, if_neg valid]
        exact ⟨rfl, agrees⟩
  | keys =>
      rw [Folder.call, agrees.keys_eq]
      exact ⟨rfl, agrees⟩

end Folder.Agrees

namespace Store

variable {σ : Type} {Shows : σ → Folder → Prop}

/-- The state shows a directory that agrees with the map. -/
def ShowsMap (Shows : σ → Folder → Prop) (st : σ) (d : Dictionary String) : Prop :=
  ∃ dir, Shows st dir ∧ dir.Agrees d

/-- The file system takes the names of both files of the key, if it is one. -/
def TakesKey (Names : String → Prop) (key : String) : Prop :=
  isKey key = true → Names (fileName key) ∧ Names (draftName key)

/-- The directory may be any of those that agree with the map. -/
theorem yields_of_leads {α : Type} {x : ExceptT StoreFault (StateM σ) α}
    {d d' : Dictionary String} {r : Except StoreFault α}
    (leads : ∀ dir : Folder, dir.Agrees d →
      ∃ dir' : Folder, Leads Shows x.run dir r dir' ∧ dir'.Agrees d') :
    Yields (ShowsMap Shows) x d r d' := by
  rintro st ⟨dir, shows, agrees⟩
  obtain ⟨dir', moves, agrees'⟩ := leads dir agrees
  obtain ⟨st', done, shows'⟩ := moves st shows
  exact ⟨st', done, dir', shows', agrees'⟩

variable [FileSystem (StateM σ)] {root : Path} {Names : String → Prop}

/-- A store in a directory acts as a map. -/
theorem files_implements (law : KeepsFolder root Names Shows) :
    (files root).Implements (ShowsMap Shows) (TakesKey Names) where
  get d key valid takes := yields_of_leads fun dir agrees => by
    have leads := law.leads_get (fun valid => (takes valid).1) dir
    rw [agrees.get_eq valid] at leads
    exact ⟨dir, leads, agrees⟩
  set d key text valid takes := yields_of_leads fun dir agrees => by
    have leads := law.leads_set takes text dir
    rw [agrees.set_eq valid] at leads
    exact ⟨dir.stored key text, leads, agrees.stored valid text⟩
  remove d key valid takes := yields_of_leads fun dir agrees => by
    have leads := law.leads_remove (fun valid => (takes valid).1) dir
    obtain ⟨dir', removed, agrees'⟩ := agrees.remove_eq valid
    rw [removed] at leads
    exact ⟨dir', leads, agrees'⟩
  get_invalid _ _ invalid := (yields_checkKey_invalid invalid).bind_error _
  set_invalid _ _ _ invalid := (yields_checkKey_invalid invalid).bind_error _
  remove_invalid _ _ invalid := (yields_checkKey_invalid invalid).bind_error _

/-- A store in a directory, missing or without files of keys, gives the same answers to any calls
as an empty store in memory. -/
theorem files_answer_as_memory (law : KeepsFolder root Names Shows) {dir : Folder} {st : σ}
    (shows : Shows st dir)
    (foreign : ∀ key, isKey key = true → dir.node? (fileName key) = none)
    (drafts : ∀ key, isKey key = true → dir.node? (draftName key) ≠ some .dir)
    {calls : List StoreCall} (fits : ∀ c ∈ calls, c.Fits Names) :
    answers (files root) calls st = answers memory calls .empty := by
  have agrees : dir.Agrees .empty := ⟨foreign, nofun, drafts⟩
  refine answers_eq_of_lockstep (R := ShowsMap Shows) ?_ ⟨dir, shows, agrees⟩
  rintro c hc st d ⟨dir, shows, agrees⟩
  obtain ⟨same, agrees'⟩ := agrees.call c
  obtain ⟨answer, shows'⟩ := (law.leads_perform (fits c hc) dir).run shows
  exact ⟨answer.trans same, (dir.call c).2, shows', agrees'⟩

/-- A directory with a note, half a draft and a file whose name is that of no key. -/
theorem files_answer_as_memory_among_others :
    let root : Path := ⟨false, ["data"]⟩
    let d : Disk := ⟨[(["data"], .dir), (["data", "notes.txt"], .text "x"),
      (["data", "a.json.tmp"], .bytes [0x7b, 0xc3]), (["data", "a b.json"], .text "0")]⟩
    let calls : List StoreCall := [.keys, .get "a", .set "b" "1", .set "a" "ü", .set "a.b" "2",
      .get "a", .keys, .remove "b", .remove "b", .get "b", .get "", .keys]
    answers (files root) calls d = answers memory calls .empty ∧
      answers memory calls .empty = [.ok (.keys []), .ok (.text none), .ok .done, .ok .done,
        .error (.invalidKey "a.b"), .ok (.text (some "ü")), .ok (.keys ["a", "b"]), .ok .done,
        .ok .done, .ok (.text none), .error (.invalidKey ""), .ok (.keys ["a"])] := by
  intro root d calls
  have plain : Disk.IsPlain root := ⟨by decide, by decide⟩
  obtain ⟨d', made, shows⟩ := (Disk.shows_empty plain (by decide)).createDirs plain
  cases made
  let note := Folder.missing.create.put "notes.txt" (.text "x")
  let draft := note.put "a.json.tmp" (.bytes [0x7b, 0xc3])
  let other := draft.put "a b.json" (.text "0")
  have shows_note : Disk.Shows root _ note := shows.put rfl (by decide) _
  have shows_draft : Disk.Shows root _ draft := shows_note.put rfl (by decide) _
  have shows_other : Disk.Shows root _ other := shows_draft.put rfl (by decide) _
  have here : Disk.Shows root d other := by
    convert shows_other using 1
    decide +kernel
  refine ⟨files_answer_as_memory (Disk.keepsFolder plain) here ?_ ?_ ?_, by decide +kernel⟩
  · intro key valid
    have apart : ∀ name, keyOfFile? name = none → name ≠ fileName key :=
      fun name foreign same => by
        rw [keyOfFile?_eq_some.mpr ⟨valid, same.symm⟩] at foreign
        cases foreign
    rw [Folder.node?_put_of_ne _ _ (apart "a b.json" (by decide +kernel)),
      Folder.node?_put_of_ne _ _ (apart "a.json.tmp" (by decide +kernel)),
      Folder.node?_put_of_ne _ _ (apart "notes.txt" (by decide +kernel))]
    rfl
  · intro key _
    simp only [other, draft, note, Folder.node?_put, Folder.node?_create]
    split <;> [skip; split <;> [skip; split]] <;> simp [Folder.node?]
  · decide +kernel

end Store
end FeatureScan
