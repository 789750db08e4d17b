import FeatureScan.Store.Files
import FeatureScan.Proofs.Folder
import FeatureScan.Proofs.StoreMap
import Mathlib.Data.List.Sort
import Mathlib.Data.String.Basic

/-!
A store in a directory, seen from the directory alone. What each call answers, and what it
leaves, is read off the map from names to nodes; any file system that keeps this map gives the
store the same answers.
-/

namespace FeatureScan
namespace Store

def fileName (key : String) : String := key ++ fileEnding

/-- The name of the file that a text is first written to. -/
def draftName (key : String) : String := key ++ fileEnding ++ ".tmp"

theorem stem_fileName (key : String) :
    String.ofList ((fileName key).toList.take ((fileName key).length - fileEnding.length)) = key := by
  have chars : (fileName key).toList = key.toList ++ fileEnding.toList := String.toList_append
  have length : (fileName key).length - fileEnding.length = key.toList.length := by
    rw [fileName, String.length_append, Nat.add_sub_cancel, String.length_toList]
  rw [chars, length, List.take_left, String.ofList_toList]

theorem keyOfFile?_eq_some {name key : String} :
    keyOfFile? name = some key ↔ isKey key = true ∧ fileName key = name := by
  simp only [keyOfFile?, Option.ite_none_right_eq_some, Option.some.injEq]
  constructor
  · rintro ⟨⟨whole, valid⟩, rfl⟩
    exact ⟨valid, whole⟩
  · rintro ⟨valid, rfl⟩
    rw [stem_fileName]
    exact ⟨⟨rfl, valid⟩, rfl⟩

theorem fileName_inj {key other : String} : fileName key = fileName other ↔ key = other := by
  refine ⟨fun same => ?_, congrArg fileName⟩
  rw [← stem_fileName key, same, stem_fileName]

theorem draftName_inj {key other : String} : draftName key = draftName other ↔ key = other := by
  refine ⟨fun same => ?_, congrArg draftName⟩
  have chars := congrArg String.toList same
  simp only [draftName, String.toList_append] at chars
  exact String.toList_inj.mp (List.append_cancel_right (List.append_cancel_right chars))

/-- The two kinds of names end differently. -/
theorem draftName_ne_fileName (key other : String) : draftName key ≠ fileName other := by
  have draft_end : (draftName key).toList.getLast? = some 'p' := by
    rw [draftName, String.toList_append, List.getLast?_append]
    rfl
  have file_end : (fileName other).toList.getLast? = some 'n' := by
    rw [fileName, String.toList_append, List.getLast?_append]
    rfl
  intro same
  rw [same, file_end] at draft_end
  exact absurd draft_end (by decide)

end Store

inductive StoreCall where
  | get (key : String)
  | set (key text : String)
  | remove (key : String)
  | keys
  deriving Repr, DecidableEq

inductive StoreAnswer where
  | text (found : Option String)
  | done
  | keys (all : List String)
  deriving Repr, DecidableEq

namespace StoreCall

def perform {m : Type → Type} [Monad m] (s : Store m) : StoreCall → ExceptT StoreFault m StoreAnswer
  | .get key => do return .text (← s.get key)
  | .set key text => do
      s.set key text
      return .done
  | .remove key => do
      s.remove key
      return .done
  | .keys => do return .keys (← s.keys)

end StoreCall

namespace Store

variable {σ τ α β : Type}

theorem run_map (x : ExceptT StoreFault (StateM σ) β) (g : β → α) (st : σ) :
    run (x >>= fun b => pure (g b)) st = ((run x st).1.map g, (run x st).2) := by
  rw [run_bind]
  rcases run x st with ⟨_ | _, st'⟩ <;> rfl

theorem run_of_yields {x : ExceptT StoreFault (StateM (Dictionary String)) α}
    {d d' : Dictionary String} {r : Except StoreFault α} (yields : Yields Eq x d r d') :
    run x d = (r, d') := by
  obtain ⟨st', done, rfl⟩ := yields d rfl
  exact done

/-- The answers to calls that are made one after the other. A call that fails does not keep
the later ones from being made. -/
def answers (s : Store (StateM σ)) : List StoreCall → σ → List (Except StoreFault StoreAnswer)
  | [], _ => []
  | c :: rest, st => (run (c.perform s) st).1 :: answers s rest (run (c.perform s) st).2

/-- Two stores give the same answers if each call keeps them in states that belong together. -/
theorem answers_eq_of_lockstep {s : Store (StateM σ)} {s' : Store (StateM τ)} {R : σ → τ → Prop}
    {calls : List StoreCall}
    (step : ∀ c ∈ calls, ∀ st st', R st st' →
      (run (c.perform s) st).1 = (run (c.perform s') st').1 ∧
        R (run (c.perform s) st).2 (run (c.perform s') st').2)
    {st : σ} {st' : τ} (related : R st st') : answers s calls st = answers s' calls st' := by
  induction calls generalizing st st' with
  | nil => rfl
  | cons c rest ih =>
      obtain ⟨same, related'⟩ := step c List.mem_cons_self st st' related
      rw [answers, answers, same, ih (fun c hc => step c (List.mem_cons_of_mem _ hc)) related']

end Store

theorem mergeSort_eq_of_perm {as bs : List String} (same : as.Perm bs) :
    as.mergeSort (fun a b => decide (a ≤ b)) = bs.mergeSort fun a b => decide (a ≤ b) := by
  have perm : (as.mergeSort fun a b => decide (a ≤ b)).Perm (bs.mergeSort fun a b => decide (a ≤ b)) :=
    (List.mergeSort_perm as _).trans (same.trans (List.mergeSort_perm bs _).symm)
  exact perm.eq_of_pairwise' (List.pairwise_mergeSort' (· ≤ ·) as)
    (List.pairwise_mergeSort' (· ≤ ·) bs)

namespace Folder

open Store

/-- Performs the steps in order, up to the first one that is refused. -/
def performAll (dir : Folder) : List FolderStep → Except FileFault Unit × Folder
  | [] => (.ok (), dir)
  | step :: rest =>
      match dir.perform step with
      | .ok dir' => dir'.performAll rest
      | .error fault => (.error fault, dir)

/-- None of the steps moves a directory. -/
def StaysPut (dir : Folder) : List FolderStep → Prop
  | [] => True
  | step :: rest =>
      step.movesDir dir = false ∧ ∀ dir', dir.perform step = .ok dir' → dir'.StaysPut rest

/-- The steps that store a text. -/
def setSteps (key text : String) : List FolderStep :=
  [.create, .write (draftName key) text, .rename (draftName key) (fileName key)]

theorem setSteps_under (root : Path) (key text : String) :
    (setSteps key text).map (FolderStep.under root) = Store.setSteps root key text := rfl

/-- The keys of the files in increasing order. -/
def keys (dir : Folder) : List String :=
  (dir.names.filterMap Store.keyOfFile?).mergeSort fun a b => decide (a ≤ b)

theorem perform_write_eq_ok {dir dir' : Folder} {name text : String}
    (done : dir.perform (.write name text) = .ok dir') :
    dir.node? name ≠ some .dir ∧ dir' = dir.put name (.text text) := by
  cases dir with
  | missing => cases done
  | holding nodes =>
      simp only [perform] at done
      split at done
      next => cases done
      next free => exact ⟨free, (Except.ok.inj done).symm⟩

theorem staysPut_setSteps (dir : Folder) (key text : String) :
    dir.StaysPut (setSteps key text) := by
  refine ⟨rfl, fun made _ => ⟨rfl, fun drafted done => ⟨?_, fun _ _ => trivial⟩⟩⟩
  rw [(perform_write_eq_ok done).2, FolderStep.movesDir, node?_put_self]
  rfl

def get (dir : Folder) (key : String) : Except StoreFault (Option String) :=
  if isKey key then
    match dir.read (fileName key) with
    | .ok text => .ok (some text)
    | .error .notFound => .ok none
    | .error fault => .error (.file fault)
  else .error (.invalidKey key)

def set (dir : Folder) (key text : String) : Except StoreFault Unit × Folder :=
  if isKey key then
    match dir.performAll (setSteps key text) with
    | (.ok (), dir') => (.ok (), dir')
    | (.error fault, dir') => (.error (.file fault), dir')
  else (.error (.invalidKey key), dir)

def remove (dir : Folder) (key : String) : Except StoreFault Unit × Folder :=
  if isKey key then
    match dir.perform (.remove (fileName key)) with
    | .ok dir' => (.ok (), dir')
    | .error .notFound => (.ok (), dir)
    | .error fault => (.error (.file fault), dir)
  else (.error (.invalidKey key), dir)

/-- The directory once a text is stored. -/
def stored (dir : Folder) (key text : String) : Folder :=
  ((dir.create.put (draftName key) (.text text)).erase (draftName key)).put (fileName key) (.text text)

theorem perform_draft (dir : Folder) (key text : String) :
    dir.create.perform (.write (draftName key) text) =
      if dir.node? (draftName key) = some .dir then .error .isDirectory
      else .ok (dir.create.put (draftName key) (.text text)) := by
  rw [← node?_create dir]
  rfl

theorem perform_rename_draft (dir : Folder) (key text : String) :
    (dir.create.put (draftName key) (.text text)).perform
        (.rename (draftName key) (fileName key)) =
      if dir.node? (fileName key) = some .dir then .error .isDirectory
      else .ok (dir.stored key text) := by
  have file : (dir.create.put (draftName key) (.text text)).node? (fileName key) =
      dir.node? (fileName key) := by
    rw [node?_put_of_ne _ _ (draftName_ne_fileName key key), node?_create]
  simp only [perform, node?_put_self, file]
  rfl

/-- A directory in the place of one of the two files stops the steps. -/
theorem performAll_setSteps (dir : Folder) (key text : String) :
    dir.performAll (setSteps key text) =
      if dir.node? (draftName key) = some .dir then (.error .isDirectory, dir.create)
      else if dir.node? (fileName key) = some .dir then
        (.error .isDirectory, dir.create.put (draftName key) (.text text))
      else (.ok (), dir.stored key text) := by
  have made : dir.perform .create = .ok dir.create := rfl
  simp only [setSteps, performAll, made, perform_draft]
  by_cases draft : dir.node? (draftName key) = some .dir
  · simp only [if_pos draft]
  · simp only [if_neg draft, perform_rename_draft]
    by_cases file : dir.node? (fileName key) = some .dir
    · simp only [if_pos file]
    · simp only [if_neg file]

theorem node?_stored_fileName (dir : Folder) (key text other : String) :
    (dir.stored key text).node? (fileName other) =
      if key = other then some (.text text) else dir.node? (fileName other) := by
  rw [stored, node?_put, node?_erase_of_ne _ (draftName_ne_fileName key other),
    node?_put_of_ne _ _ (draftName_ne_fileName key other), node?_create]
  simp only [fileName_inj]

theorem node?_stored_draftName (dir : Folder) (key text other : String) :
    (dir.stored key text).node? (draftName other) =
      if key = other then none else dir.node? (draftName other) := by
  rw [stored, node?_put_of_ne _ _ (draftName_ne_fileName other key).symm, node?_erase]
  by_cases same : key = other
  · rw [if_pos same, if_pos (congrArg draftName same)]
  · have apart : draftName key ≠ draftName other := fun h => same (draftName_inj.mp h)
    rw [if_neg same, if_neg apart, node?_put_of_ne _ _ apart, node?_create]

theorem mem_fileKeys {dir : Folder} {key : String} :
    key ∈ dir.names.filterMap keyOfFile? ↔
      isKey key = true ∧ (dir.node? (fileName key)).isSome = true := by
  simp only [List.mem_filterMap, keyOfFile?_eq_some, mem_names]
  constructor
  · rintro ⟨name, there, valid, rfl⟩
    exact ⟨valid, there⟩
  · rintro ⟨valid, there⟩
    exact ⟨fileName key, there, valid, rfl⟩

theorem fileKeys_nodup (dir : Folder) : (dir.names.filterMap keyOfFile?).Nodup := by
  refine dir.names_nodup.filterMap fun name other key hn ho => ?_
  rw [← (keyOfFile?_eq_some.mp hn).2, ← (keyOfFile?_eq_some.mp ho).2]

/-- The keys are determined by which of their files there are. -/
theorem keys_eq_of_mem {dir : Folder} {all : List String} (distinct : all.Nodup)
    (ordered : all.Pairwise (· ≤ ·))
    (same : ∀ key, key ∈ all ↔ isKey key = true ∧ (dir.node? (fileName key)).isSome = true) :
    dir.keys = all := by
  have perm : (dir.names.filterMap keyOfFile?).Perm all :=
    (List.perm_ext_iff_of_nodup dir.fileKeys_nodup distinct).mpr fun key =>
      mem_fileKeys.trans (same key).symm
  rw [keys, mergeSort_eq_of_perm perm]
  exact List.mergeSort_of_pairwise (ordered.imp decide_eq_true)

theorem set_of_free {dir : Folder} {key : String} (valid : isKey key = true)
    (no_draft : dir.node? (draftName key) ≠ some .dir)
    (no_file : dir.node? (fileName key) ≠ some .dir) (text : String) :
    dir.set key text = (.ok (), dir.stored key text) := by
  rw [set, if_pos valid, performAll_setSteps, if_neg no_draft, if_neg no_file]

theorem get_stored (dir : Folder) {key : String} (valid : isKey key = true) (text other : String) :
    (dir.stored key text).get other = if key = other then .ok (some text) else dir.get other := by
  have entry := dir.node?_stored_fileName key text other
  by_cases same : key = other
  · rw [if_pos same] at entry ⊢
    simp only [get, if_pos (same ▸ valid), read, entry]
  · rw [if_neg same] at entry ⊢
    simp only [get, read, entry]

/-- The answer of a store in the directory to a call and the directory that the call leaves. -/
def call (dir : Folder) : StoreCall → Except StoreFault StoreAnswer × Folder
  | .get key => ((dir.get key).map .text, dir)
  | .set key text => ((dir.set key text).1.map fun _ => .done, (dir.set key text).2)
  | .remove key => ((dir.remove key).1.map fun _ => .done, (dir.remove key).2)
  | .keys => (.ok (.keys dir.keys), dir)

end Folder

/-- The names of the files that the call needs are names that the file system takes. -/
def StoreCall.Fits (Names : String → Prop) : StoreCall → Prop
  | .get key | .remove key => isKey key = true → Names (Store.fileName key)
  | .set key _ => isKey key = true → Names (Store.fileName key) ∧ Names (Store.draftName key)
  | .keys => True

instance (Names : String → Prop) [DecidablePred Names] : DecidablePred (StoreCall.Fits Names)
  | .get key | .remove key =>
      inferInstanceAs (Decidable (isKey key = true → Names (Store.fileName key)))
  | .set key _ =>
      inferInstanceAs (Decidable
        (isKey key = true → Names (Store.fileName key) ∧ Names (Store.draftName key)))
  | .keys => .isTrue trivial

section

variable {σ α : Type} {Shows : σ → Folder → Prop}

theorem Leads.run {x : ExceptT StoreFault (StateM σ) α} {r : Except StoreFault α}
    {dir dir' : Folder} (leads : Leads Shows x.run dir r dir') {st : σ} (shows : Shows st dir) :
    (Store.run x st).1 = r ∧ Shows (Store.run x st).2 dir' := by
  obtain ⟨st', done, shows'⟩ := leads st shows
  have done : Store.run x st = (r, st') := done
  rw [done]
  exact ⟨rfl, shows'⟩

end

namespace KeepsFolder

open Store (fileName draftName checkKey files)

variable {σ α β : Type} {Shows : σ → Folder → Prop}

theorem checkKey_bind {key : String} (valid : isKey key = true)
    (f : Unit → ExceptT StoreFault (StateM σ) α) : (checkKey key >>= f) = f () := by
  rw [checkKey, if_pos valid, pure_bind]

theorem leads_invalidKey {key : String} (invalid : ¬ isKey key = true)
    (f : Unit → ExceptT StoreFault (StateM σ) α) (dir : Folder) :
    Leads Shows (checkKey key >>= f).run dir (.error (.invalidKey key)) dir := by
  intro st shows
  refine ⟨st, ?_, shows⟩
  rw [checkKey, if_neg invalid]
  rfl

theorem run_lift_bind (x : StateM σ β) (f : β → ExceptT StoreFault (StateM σ) α) :
    ((liftM x : ExceptT StoreFault (StateM σ) β) >>= f).run = x >>= fun b => (f b).run := rfl

theorem leads_lift_bind {x : StateM σ β} {f : β → ExceptT StoreFault (StateM σ) α}
    {dir dir' dir'' : Folder} {b : β} {r : Except StoreFault α} (first : Leads Shows x dir b dir')
    (second : Leads Shows (f b).run dir' r dir'') :
    Leads Shows ((liftM x : ExceptT StoreFault (StateM σ) β) >>= f).run dir r dir'' := by
  rw [run_lift_bind]
  exact first.bind second

theorem leads_map {x : ExceptT StoreFault (StateM σ) β} {r : Except StoreFault β}
    {dir dir' : Folder} (first : Leads Shows x.run dir r dir') (g : β → α) :
    Leads Shows (x >>= fun b => pure (g b)).run dir (r.map g) dir' := by
  intro st shows
  obtain ⟨st', done, shows'⟩ := first st shows
  refine ⟨st', ?_, shows'⟩
  change Store.run _ st = _
  rw [Store.run_map, Store.run, done]

variable [FileSystem (StateM σ)] {root : Path}

/-- Here, as for the other calls, the answer of the file system need not be that of the map. -/
theorem leads_get_of_read {key : String} (valid : isKey key = true) {dir dir' : Folder}
    {answer : Except FileFault String} :
    Leads Shows (FileSystem.read (root.child (fileName key))) dir answer dir' →
      Leads Shows ((files root).get key).run dir
        (match answer with
          | .ok text => .ok (some text)
          | .error .notFound => .ok none
          | .error fault => .error (.file fault)) dir' := by
  intro read
  change Leads Shows (checkKey key >>= fun _ => _).run dir _ dir'
  rw [checkKey_bind valid]
  refine leads_lift_bind read ?_
  cases answer with
  | ok text => exact leads_pure dir' _
  | error fault => cases fault <;> exact leads_pure dir' _

theorem leads_set_of_steps {key text : String} (valid : isKey key = true) {dir dir' : Folder}
    {answer : Except FileFault Unit}
    (steps : Leads Shows (FileSystem.performAll (Store.setSteps root key text)) dir answer dir') :
    Leads Shows ((files root).set key text).run dir (answer.mapError StoreFault.file) dir' := by
  change Leads Shows (checkKey key >>= fun _ => _).run dir _ dir'
  rw [checkKey_bind valid]
  refine leads_lift_bind steps ?_
  cases answer <;> exact leads_pure dir' _

theorem leads_remove_of_step {key : String} (valid : isKey key = true) {dir dir' : Folder}
    {answer : Except FileFault Unit} :
    Leads Shows (FileSystem.perform (.remove (root.child (fileName key)))) dir answer dir' →
      Leads Shows ((files root).remove key).run dir
        (match answer with
          | .ok () | .error .notFound => .ok ()
          | .error fault => .error (.file fault)) dir' := by
  intro step
  change Leads Shows (checkKey key >>= fun _ => _).run dir _ dir'
  rw [checkKey_bind valid]
  refine leads_lift_bind step ?_
  cases answer with
  | ok => exact leads_pure dir' _
  | error fault => cases fault <;> exact leads_pure dir' _

variable {Names : String → Prop} (law : KeepsFolder root Names Shows)
include law

theorem leads_get {key : String} (fits : isKey key = true → Names (fileName key)) (dir : Folder) :
    Leads Shows ((files root).get key).run dir (dir.get key) dir := by
  unfold Folder.get
  split
  next valid => exact leads_get_of_read valid (law.read dir (fileName key) (fits valid))
  next invalid => exact leads_invalidKey invalid _ dir

theorem leads_performAll {dir : Folder} {steps : List FolderStep}
    (names : ∀ step ∈ steps, ∀ name ∈ step.names, Names name) (still : dir.StaysPut steps) :
    Leads Shows (FileSystem.performAll (steps.map (FolderStep.under root))) dir
      (dir.performAll steps).1 (dir.performAll steps).2 := by
  induction steps generalizing dir with
  | nil => exact leads_pure dir _
  | cons step rest ih =>
      obtain ⟨here, later⟩ := still
      have first := law.perform dir step (names step List.mem_cons_self) here
      rw [List.map_cons, FileSystem.performAll, Folder.performAll]
      refine first.bind ?_
      cases done : dir.perform step with
      | error fault => exact leads_pure dir _
      | ok dir' =>
          exact ih (fun s hs => names s (List.mem_cons_of_mem step hs)) (later dir' done)

theorem leads_set {key : String}
    (fits : isKey key = true → Names (fileName key) ∧ Names (draftName key)) (text : String)
    (dir : Folder) :
    Leads Shows ((files root).set key text).run dir (dir.set key text).1 (dir.set key text).2 := by
  unfold Folder.set
  split
  next valid =>
    obtain ⟨file, draft⟩ := fits valid
    have names : ∀ step ∈ Folder.setSteps key text, ∀ name ∈ step.names, Names name := by
      simp [Folder.setSteps, FolderStep.names, file, draft]
    have steps := leads_set_of_steps valid
      (law.leads_performAll names (dir.staysPut_setSteps key text))
    generalize dir.performAll (Folder.setSteps key text) = outcome at steps
    rcases outcome with ⟨_ | _, dir'⟩ <;> exact steps
  next invalid => exact leads_invalidKey invalid _ dir

theorem leads_remove {key : String} (fits : isKey key = true → Names (fileName key))
    (dir : Folder) :
    Leads Shows ((files root).remove key).run dir (dir.remove key).1 (dir.remove key).2 := by
  unfold Folder.remove
  split
  next valid =>
    have step := leads_remove_of_step valid (law.perform dir (.remove (fileName key))
      (List.forall_mem_singleton.mpr (fits valid)) rfl)
    cases done : dir.perform (.remove (fileName key)) with
    | ok dir' =>
        rw [done] at step
        exact step
    | error fault =>
        rw [done] at step
        cases fault <;> exact step
  next invalid => exact leads_invalidKey invalid _ dir

theorem leads_keys (dir : Folder) : Leads Shows (files root).keys.run dir (.ok dir.keys) dir := by
  cases dir with
  | missing =>
      have nothing : Folder.missing.keys = [] := List.mergeSort_nil
      rw [nothing]
      exact leads_lift_bind law.list_missing (leads_pure _ _)
  | holding nodes =>
      intro st shows
      obtain ⟨names, perm, st', listed, shows'⟩ := law.list nodes st shows
      have same : (names.filterMap Store.keyOfFile?).mergeSort (fun a b => decide (a ≤ b)) =
          (Folder.holding nodes).keys := mergeSort_eq_of_perm (perm.filterMap _)
      refine ⟨st', ?_, shows'⟩
      unfold files
      dsimp only
      rw [← same, run_lift_bind, StateT.run_bind, listed]
      rfl

/-- A store in the directory answers every call as the map of the directory does. -/
theorem leads_perform {c : StoreCall} (fits : c.Fits Names) (dir : Folder) :
    Leads Shows (c.perform (files root)).run dir (dir.call c).1 (dir.call c).2 := by
  cases c with
  | get key => exact leads_map (law.leads_get fits dir) StoreAnswer.text
  | set key text => exact leads_map (law.leads_set fits text dir) fun _ => StoreAnswer.done
  | remove key => exact leads_map (law.leads_remove fits dir) fun _ => StoreAnswer.done
  | keys => exact leads_map (law.leads_keys dir) StoreAnswer.keys

end KeepsFolder
end FeatureScan
