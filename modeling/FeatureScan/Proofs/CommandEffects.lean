import FeatureScan.Proofs.FileEffects

/-!
The steps that each command may take, and that it takes none before it fails by itself. The
store takes steps for the document that is written; the rest of the program only reads, but for
the file that a report is put into.
-/

namespace FeatureScan

namespace Store

/-- The steps that a store in a directory takes for a key. -/
def stepsFor (root : Path) (key : String) : Set FileStep :=
  {step | (∃ text, step ∈ setSteps root key text) ∨ step = .remove (fileOf root key)}

theorem performs_checkKey {σ : Type} {view : σ → Files} {steps : Set FileStep} (key : String) :
    Performs view steps (checkKey key : ExceptT StoreFault (StateM σ) Unit).run := by
  rw [checkKey]
  split
  · exact performs_pure ()
  · exact performs_throw _

end Store

namespace Command

/-- The directory that an invocation keeps its data in. -/
def Invocation.root (i : Invocation) (env : Settings.Variables) : Path :=
  Path.ofString (Settings.dataDir i.dataDir env)

/-- The steps that put a report into a file. -/
def deliverySteps (output : Option String) : Set FileStep :=
  {step | ∃ file text, output = some file ∧ step = .write (Path.ofString file) text}

/-- The steps that a command may take, with its data in a directory. -/
def allowedSteps (root : Path) : Command → Set FileStep
  | .analyze _ _ output keep _ _ =>
      (if keep then Store.stepsFor root (Kept.key HistoryItem) else ∅) ∪ deliverySteps output
  | .historyClear => Store.stepsFor root (Kept.key HistoryItem)
  | .bookmarkAdd _ _ | .bookmarkRemove _ => Store.stepsFor root (Kept.key Bookmark)
  | .historyList | .historyShow _ _ _ | .bookmarkList | .docs _ | .features _ | .shareEncode _
  | .shareDecode _ | .samples _ _ _ | .completions _ => ∅

theorem deliverySteps_subset (root : Path) (file : Option String) (format : Report.Format)
    (output : Option String) (keep docs : Bool) (listing : Listing) :
    deliverySteps output ⊆
      allowedSteps root (.analyze file format output keep docs listing) := by
  rw [allowedSteps]
  exact Set.subset_union_right

end Command

section

variable {σ : Type} [Host (StateM σ)] {view : σ → Files} (tame : Host.Tame view)
  {steps : Set FileStep}
include tame

namespace Host.Tame

theorem performs_read (p : Path) : Performs view steps (FileSystem.read p : StateM σ _) :=
  performs_of_quiet (tame.read p)

theorem performs_step {step : FileStep} (allowed : step ∈ steps) :
    Performs view steps (FileSystem.perform step : StateM σ _) := by
  intro st
  exact .single ⟨step, allowed, tame.perform step st⟩

theorem performs_all {list : List FileStep} (allowed : ∀ step ∈ list, step ∈ steps) :
    Performs view steps (FileSystem.performAll list : StateM σ _) := by
  induction list with
  | nil => exact performs_ret _
  | cons step rest ih =>
      apply Performs.then (tame.performs_step (allowed step List.mem_cons_self))
      intro r
      cases r with
      | ok _ => exact ih fun later mem => allowed later (List.mem_cons_of_mem step mem)
      | error fault => exact performs_ret _

variable (root : Path) (key : String)

theorem performs_get : Performs view steps ((Store.files root : Store (StateM σ)).get key).run := by
  apply (Store.performs_checkKey key).bind
  intro _
  apply (tame.performs_read _).lift.bind
  intro r
  split
  · exact performs_pure _
  · exact performs_pure _
  · exact performs_throw _

theorem performs_set (text : String) :
    Performs view (Store.stepsFor root key)
      ((Store.files root : Store (StateM σ)).set key text).run := by
  apply (Store.performs_checkKey key).bind
  intro _
  have allowed : ∀ step ∈ Store.setSteps root key text, step ∈ Store.stepsFor root key :=
    fun step mem => .inl ⟨text, mem⟩
  apply (tame.performs_all allowed).lift.bind
  intro r
  cases r with
  | ok _ => exact performs_pure ()
  | error fault => exact performs_throw _

theorem performs_remove :
    Performs view (Store.stepsFor root key)
      ((Store.files root : Store (StateM σ)).remove key).run := by
  apply (Store.performs_checkKey key).bind
  intro _
  apply (tame.performs_step (Or.inr rfl)).lift.bind
  intro r
  split
  · exact performs_pure ()
  · exact performs_pure ()
  · exact performs_throw _

variable {α : Type} [Kept α]

theorem performs_load :
    Performs view steps (Kept.load (Store.files root) : ExceptT StoreFault (StateM σ) (List α)).run := by
  apply Performs.catch
  · apply Performs.bind
    · apply (tame.performs_get root _).bind
      intro found
      cases found with
      | none => exact performs_pure _
      | some text =>
          dsimp only
          split
          · exact performs_pure _
          · exact performs_throw _
    · exact fun _ => performs_pure _
  · intro fault
    cases fault with
    | json _ => exact performs_pure _
    | file _ | invalidKey _ => exact performs_throw _

theorem performs_find? (id : String) :
    Performs view steps
      (Kept.find? (Store.files root) id : ExceptT StoreFault (StateM σ) (Option α)).run := by
  apply (tame.performs_load root).bind
  exact fun _ => performs_pure _

theorem performs_save (entries : List α) :
    Performs view (Store.stepsFor root (Kept.key α))
      (Kept.save (Store.files root) entries : ExceptT StoreFault (StateM σ) Unit).run :=
  tame.performs_set root _ _

theorem performs_resave (change : List α → List α) :
    Performs view (Store.stepsFor root (Kept.key α))
      (do
        let entries := change (← Kept.load (Store.files root))
        Kept.save (Store.files root) entries
        return entries : ExceptT StoreFault (StateM σ) (List α)).run := by
  apply (tame.performs_load root).bind
  intro entries
  apply (tame.performs_save root _).bind
  exact fun _ => performs_pure _

theorem performs_readCode (file : Path) :
    Performs view steps (readCode file : ExceptT AppFault (StateM σ) String).run := by
  apply (tame.performs_read file).lift.bind
  intro r
  split
  · exact performs_throw _
  · split
    · exact performs_throw _
    · exact performs_pure _

theorem performs_loadDataset (file : Option Path) :
    Performs view steps (loadDataset file : ExceptT AppFault (StateM σ) Dataset).run := by
  cases file with
  | none => exact performs_pure _
  | some file =>
      apply (tame.performs_read file).lift.bind
      intro r
      split
      · exact performs_throw _
      · split
        · exact performs_throw _
        · exact performs_pure _

theorem performs_snippet (file : Option String) :
    Performs view steps (Command.snippet file : ExceptT AppFault (StateM σ) String).run := by
  rw [Command.snippet]
  split
  · exact tame.performs_readCode _
  · apply (performs_of_quiet tame.input).lift.bind
    intro r
    split
    · exact performs_throw _
    · split
      · exact performs_throw _
      · exact performs_pure _

theorem performs_rendered (a : Analysis) (format : Report.Format) (options : Report.TextOptions) :
    Performs view steps
      (Command.rendered a format options : ExceptT Command.Failure (StateM σ) String).run := by
  apply (performs_of_quiet tame.now).lift.bind
  exact fun _ => performs_pure _

theorem performs_told (a : Analysis) (format : Report.Format) (options : Report.TextOptions)
    {output : Option String} (allowed : Command.deliverySteps output ⊆ steps) :
    Performs view steps
      (do Command.deliver (← Command.rendered a format options) output :
        ExceptT Command.Failure (StateM σ) Command.Printed).run := by
  apply (tame.performs_rendered a format options).bind
  intro report
  cases output with
  | none => exact performs_pure _
  | some file =>
      apply (tame.performs_step (allowed ⟨file, report, rfl, rfl⟩)).lift.bind
      intro r
      cases r with
      | ok _ => exact performs_pure _
      | error fault => exact performs_throw _

end Host.Tame

namespace Command

omit tame [Host (StateM σ)] in
theorem raises_stored {α : Type} (act : ExceptT StoreFault (StateM σ) α) :
    Raises (AppFault.exitCode · = 1) (App.stored act) := by
  apply raises_adapt
  exact fun _ => rfl

omit tame [Host (StateM σ)] in
theorem raises_reportedStore {α : Type} (act : ExceptT StoreFault (StateM σ) α) :
    Raises (Failure.exitCode · = 1) (reportedStore act) := by
  apply raises_adapt
  exact fun _ => rfl

omit tame in
/-- A report is only not told for want of a file to put it into. -/
theorem raises_told (a : Analysis) (format : Report.Format) (options : Report.TextOptions)
    (output : Option String) :
    Raises (Failure.exitCode · = 1)
      (do deliver (← rendered a format options) output : ExceptT Failure (StateM σ) Printed) := by
  refine Raises.bind (Raises.bind (raises_lift _) fun _ => raises_pure _) fun report => ?_
  cases output with
  | none => exact raises_pure _
  | some file =>
      refine Raises.bind (raises_lift _) fun r => ?_
      cases r with
      | ok _ => exact raises_pure _
      | error fault => exact raises_throw rfl

/-- Opening reads the dataset at most, and the store is the one in the directory of the data. -/
theorem settles_openApp {α : Type} {i : Invocation} {env : Settings.Variables}
    {f : App (StateM σ) → ExceptT Failure (StateM σ) α}
    (later : ∀ d, Settles view Failure.exitCode steps (f ⟨d, Store.files (i.root env)⟩)) :
    Settles view Failure.exitCode steps (openApp i env >>= f) := by
  rw [openApp]
  simp only [bind_assoc, pure_bind]
  exact Settles.after ((tame.performs_loadDataset _).adapt _) later

theorem settles_snippet {α : Type} (file : Option String)
    {f : String → ExceptT Failure (StateM σ) α}
    (later : ∀ code, Settles view Failure.exitCode steps (f code)) :
    Settles view Failure.exitCode steps (reported (snippet file) >>= f) :=
  Settles.after ((tame.performs_snippet file).adapt _) later

omit tame [Host (StateM σ)] in
theorem settles_analyzeSnippet {α : Type} (app : App (StateM σ)) (code : String)
    {f : Analysis → ExceptT Failure (StateM σ) α}
    (later : ∀ a, Settles view Failure.exitCode steps (f a)) :
    Settles view Failure.exitCode steps (analyzeSnippet app code >>= f) := by
  refine Settles.after ?_ later
  rw [analyzeSnippet]
  split
  · exact performs_pure _
  · exact performs_throw _

theorem performs_record (root : Path) (d : Dataset) (id : String) (time : Instant)
    (code : String) (a : Analysis) (more : Store.stepsFor root (Kept.key HistoryItem) ⊆ steps) :
    Performs view steps ((App.mk d (Store.files root) : App (StateM σ)).record id time code a) := by
  have records := tame.performs_resave root fun items : List HistoryItem =>
    (Kept.prepend (HistoryItem.new id time code a) items).take History.limit
  apply (records.mono more).then
  intro r
  cases r <;> exact performs_ret _

/-- The report comes after the record, so it can only fail for want of a file. -/
theorem settles_analyze (i : Invocation) (env : Settings.Variables) {file : Option String}
    {format : Report.Format} {output : Option String} {keep docs : Bool} {listing : Listing}
    (asked : i.command = .analyze file format output keep docs listing) :
    Settles view Failure.exitCode (i.command.allowedSteps (i.root env))
      (perform i env : ExceptT Failure (StateM σ) Printed) := by
  simp only [perform, asked]
  refine settles_openApp tame fun d => ?_
  refine settles_snippet tame file fun code => ?_
  refine settles_analyzeSnippet _ code fun a => ?_
  have tells := tame.performs_told a format ⟨docs, listing.query?⟩
    (deliverySteps_subset (i.root env) file format output keep docs listing)
  have faults := raises_told (σ := σ) a format ⟨docs, listing.query?⟩ output
  cases keep with
  | false => exact settles_of_raises tells faults
  | true =>
      apply settles_of_raises
      · apply (performs_of_quiet tame.freshId).lift.bind
        intro id
        apply (performs_of_quiet tame.now).lift.bind
        intro time
        apply (performs_record tame _ d id time code a Set.subset_union_left).lift.bind
        exact fun _ => tells
      · refine Raises.bind (raises_lift _) fun id => ?_
        refine Raises.bind (raises_lift _) fun time => ?_
        exact Raises.bind (raises_lift _) fun _ => faults

theorem performs_historyEntry (root : Path) (d : Dataset) (id : String) :
    Performs view steps
      ((App.mk d (Store.files root) : App (StateM σ)).historyEntry id).run := by
  apply ((tame.performs_find? root id).adapt _).bind
  intro found
  cases found with
  | none => exact performs_throw _
  | some item => exact performs_pure _

theorem settles_addBookmark (root : Path) (d : Dataset) (id : String) (time : Instant)
    (name code : String) :
    Settles view AppFault.exitCode (Store.stepsFor root (Kept.key Bookmark))
      ((App.mk d (Store.files root) : App (StateM σ)).addBookmark id time name code) := by
  rw [App.addBookmark]
  split
  · exact settles_of_quiet (performs_throw _)
  next results _ =>
    have saves := tame.performs_resave root (Kept.prepend (Bookmark.new id time name code results))
    apply settles_of_raises
    · apply (saves.adapt _).bind
      exact fun _ => performs_pure _
    · exact Raises.bind (raises_stored _) fun _ => raises_pure _

/-- A bookmark that is not there is missed before anything is written. -/
theorem settles_removeBookmark (root : Path) (d : Dataset) (id : String) :
    Settles view AppFault.exitCode (Store.stepsFor root (Kept.key Bookmark))
      ((App.mk d (Store.files root) : App (StateM σ)).removeBookmark id) := by
  apply Settles.after ((tame.performs_find? root id).adapt _)
  intro found
  cases found with
  | none => exact settles_of_quiet (performs_throw _)
  | some b =>
      have removes := tame.performs_resave root fun bookmarks : List Bookmark =>
        bookmarks.filter fun other => other.id ≠ id
      exact settles_of_raises (removes.adapt _) (raises_stored _)

/-- Every command takes its own steps only, and none before it fails with another exit code than
one. -/
theorem settles_perform (i : Invocation) (env : Settings.Variables) :
    Settles view Failure.exitCode (i.command.allowedSteps (i.root env))
      (perform i env : ExceptT Failure (StateM σ) Printed) := by
  cases asked : i.command with
  | analyze file format output keep docs listing => exact asked ▸ settles_analyze tame i env asked
  | historyList =>
      simp only [perform, asked]
      refine settles_openApp tame fun d => settles_of_quiet ?_
      apply ((tame.performs_load _).adapt _).bind
      exact fun _ => performs_pure _
  | historyShow id format listing =>
      simp only [perform, asked]
      refine settles_openApp tame fun d => settles_of_quiet ?_
      apply ((performs_historyEntry tame _ d id).adapt _).bind
      intro item
      apply (tame.performs_rendered _ _ _).bind
      exact fun _ => performs_pure _
  | historyClear =>
      simp only [perform, asked]
      refine settles_openApp tame fun d => Settles.thenReturn (settles_of_raises ?_ ?_) _
      · exact (tame.performs_remove _ _).adapt _
      · exact raises_reportedStore _
  | bookmarkAdd name file =>
      simp only [perform, asked]
      refine settles_openApp tame fun d => settles_snippet tame file fun code => ?_
      apply Settles.after (performs_of_quiet tame.freshId).lift
      intro id
      apply Settles.after (performs_of_quiet tame.now).lift
      intro time
      apply Settles.thenReturn
      exact (settles_addBookmark tame _ d id time name code).adapt fun _ => rfl
  | bookmarkList =>
      simp only [perform, asked]
      refine settles_openApp tame fun d => settles_of_quiet ?_
      apply ((tame.performs_load _).adapt _).bind
      exact fun _ => performs_pure _
  | bookmarkRemove id =>
      simp only [perform, asked]
      refine settles_openApp tame fun d => ?_
      apply Settles.thenReturn
      exact (settles_removeBookmark tame _ d id).adapt fun _ => rfl
  | docs id =>
      simp only [perform, asked]
      apply settles_of_quiet
      split
      · exact performs_pure _
      · exact performs_throw _
  | features category =>
      simp only [perform, asked]
      exact settles_openApp tame fun d => settles_of_quiet (performs_pure _)
  | shareEncode file =>
      simp only [perform, asked]
      exact settles_snippet tame file fun code => settles_of_quiet (performs_pure _)
  | shareDecode link =>
      simp only [perform, asked]
      apply settles_of_quiet
      split
      · exact performs_pure _
      · exact performs_throw _
  | samples name analyzes format =>
      cases name with
      | none =>
          simp only [perform, asked]
          exact settles_of_quiet (performs_pure _)
      | some name =>
          simp only [perform, asked]
          split
          · exact settles_of_quiet (performs_throw _)
          next sample _ =>
            split
            · refine settles_openApp tame fun d => settles_analyzeSnippet _ _ fun a => ?_
              apply settles_of_quiet
              apply (tame.performs_rendered _ _ _).bind
              exact fun _ => performs_pure _
            · exact settles_of_quiet (performs_pure _)
  | completions shell =>
      simp only [perform, asked]
      exact settles_of_quiet (performs_pure _)

end Command

end

end FeatureScan
