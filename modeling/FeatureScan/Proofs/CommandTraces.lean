import FeatureScan.Proofs.CommandEffects
import FeatureScan.Proofs.MachineEffects

/-!
What a run leaves behind. One that fails by itself leaves nothing, whatever had to be read for
it; commands that only read leave the data as they were, and those that write leave the document
of the other kind alone.
-/

namespace FeatureScan

namespace Command

/-- The file that a report is put into, if it is put into one. -/
def output? : Command → Option String
  | .analyze _ _ output _ _ _ => output
  | _ => none

/-- Whether a command keeps nothing. -/
def readsOnly : Command → Bool
  | .analyze _ _ _ keep _ _ => !keep
  | .historyClear | .bookmarkAdd _ _ | .bookmarkRemove _ => false
  | .historyList | .historyShow _ _ _ | .bookmarkList | .docs _ | .features _ | .shareEncode _
  | .shareDecode _ | .samples _ _ _ | .completions _ => true

/-- The key of the document that a command has nothing to do with, if it may write the one of
the other kind. -/
def otherKey? : Command → Option String
  | .analyze _ _ _ _ _ _ | .historyClear => some (Kept.key Bookmark)
  | .bookmarkAdd _ _ | .bookmarkRemove _ => some (Kept.key HistoryItem)
  | _ => none

/-- No report is put into a file in the directory of the data. -/
def Invocation.DeliversElsewhere (i : Invocation) (env : Settings.Variables) : Prop :=
  ∀ file ∈ i.command.output?, ¬ (i.root env).goal <+: (Path.ofString file).goal

instance (i : Invocation) (env : Settings.Variables) : Decidable (i.DeliversElsewhere env) :=
  inferInstanceAs (Decidable (∀ file ∈ i.command.output?, _))

theorem allowedSteps_of_readsOnly {c : Command} (root : Path) (reads : c.readsOnly = true) :
    c.allowedSteps root ⊆ deliverySteps c.output? := by
  cases c with
  | analyze file format output keep docs listing =>
      cases keep with
      | false =>
          rw [allowedSteps, if_neg (by simp), Set.empty_union]
          exact subset_rfl
      | true => cases reads
  | historyClear | bookmarkAdd _ _ | bookmarkRemove _ => cases reads
  | historyList | historyShow _ _ _ | bookmarkList | docs _ | features _ | shareEncode _
  | shareDecode _ | samples _ _ _ | completions _ => exact Set.empty_subset _

theorem deliverySteps_spare {i : Invocation} {env : Settings.Variables} {place : Place}
    (elsewhere : i.DeliversElsewhere env) (inside : (i.root env).goal <+: place) :
    ∀ step ∈ deliverySteps i.command.output?, step.Spares place := by
  intro step delivers before after turned
  obtain ⟨file, text, output, rfl⟩ := delivers
  have here : (Path.ofString file).goal = place := turned
  exact elsewhere file output (here ▸ inside)

end Command

namespace Store

/-- The files of a document: the one that it is read from, and its draft. -/
theorem stepsFor_spare {root : Path} {key : String} {place : Place}
    (file : ¬ (fileOf root key).goal <+: place) (draft : ¬ (draftOf root key).goal <+: place) :
    ∀ step ∈ stepsFor root key, step = .createDirs root ∨ step.Spares place := by
  have apart {p : Path} (below : ¬ p.goal <+: place) : p.goal ≠ place :=
    fun same => below (same ▸ List.prefix_refl _)
  intro step taken
  cases taken with
  | inl sets =>
      obtain ⟨text, mem⟩ := sets
      simp only [setSteps, List.mem_cons, List.not_mem_nil, or_false] at mem
      obtain rfl | rfl | rfl := mem
      · exact .inl rfl
      · exact .inr fun _ _ turned => apart draft turned
      · exact .inr fun _ _ turned => turned.elim draft file
  | inr removes =>
      subst removes
      exact .inr fun _ _ turned => apart file turned

/-- Files of other names in the directory are apart. -/
theorem child_apart {root : Path} {name other : String} (named : Disk.IsName name)
    (other_named : Disk.IsName other) (ne : name ≠ other) :
    ¬ (root.child name).goal <+: (root.child other).goal := by
  rw [Disk.child_goal named, Disk.child_goal other_named, List.prefix_append_right_inj]
  simpa using ne

end Store

namespace Command

theorem history_apart (root : Path) :
    ∀ step ∈ Store.stepsFor root (Kept.key HistoryItem),
      step = .createDirs root ∨ step.Spares (Store.fileOf root (Kept.key Bookmark)).goal :=
  Store.stepsFor_spare (Store.child_apart (by decide) (by decide) (by decide))
    (Store.child_apart (by decide) (by decide) (by decide))

theorem bookmarks_apart (root : Path) :
    ∀ step ∈ Store.stepsFor root (Kept.key Bookmark),
      step = .createDirs root ∨ step.Spares (Store.fileOf root (Kept.key HistoryItem)).goal :=
  Store.stepsFor_spare (Store.child_apart (by decide) (by decide) (by decide))
    (Store.child_apart (by decide) (by decide) (by decide))

theorem goal_of_otherKey {c : Command} {key : String} (other : c.otherKey? = some key)
    (root : Path) : (Store.fileOf root key).goal = root.goal ++ [key ++ Store.fileEnding] := by
  apply Disk.child_goal
  cases c with
  | analyze _ _ _ _ _ _ | historyClear | bookmarkAdd _ _ | bookmarkRemove _ =>
      cases other
      decide
  | historyList | historyShow _ _ _ | bookmarkList | docs _ | features _ | shareEncode _
  | shareDecode _ | samples _ _ _ | completions _ => cases other

theorem allowedSteps_spare_other {i : Invocation} {env : Settings.Variables} {key : String}
    (elsewhere : i.DeliversElsewhere env) (other : i.command.otherKey? = some key) :
    ∀ step ∈ i.command.allowedSteps (i.root env),
      step = .createDirs (i.root env) ∨
        step.Spares (Store.fileOf (i.root env) key).goal := by
  have inside : (i.root env).goal <+: (Store.fileOf (i.root env) key).goal := by
    rw [goal_of_otherKey other]
    exact List.prefix_append _ _
  have delivers := deliverySteps_spare elsewhere inside
  cases asked : i.command with
  | analyze file format output keep docs listing =>
      rw [asked] at other delivers
      cases other
      intro step allowed
      cases allowed with
      | inl records =>
          cases keep with
          | true => exact history_apart _ step records
          | false => cases records
      | inr delivered => exact .inr (delivers step delivered)
  | historyClear =>
      rw [asked] at other
      cases other
      exact history_apart _
  | bookmarkAdd _ _ | bookmarkRemove _ =>
      rw [asked] at other
      cases other
      exact bookmarks_apart _
  | historyList | historyShow _ _ _ | bookmarkList | docs _ | features _ | shareEncode _
  | shareDecode _ | samples _ _ _ | completions _ =>
      rw [asked] at other
      cases other

section

variable {σ : Type} [Host (StateM σ)] {view : σ → Files}

theorem run_eq_ends {args : List String} {i : Invocation} (asked : read args = .ok i)
    (env : Settings.Variables) (st : σ) :
    (run args env : StateM σ Ending).run st =
      (.ofResult (ends (perform i env) st).1, (ends (perform i env) st).2) := by
  rw [run, asked]
  rfl

theorem run_stopped {args : List String} {stop : Stop} (stopped : read args = .error stop)
    (env : Settings.Variables) (st : σ) :
    (run args env : StateM σ Ending).run st = (.ofStop stop, st) := by
  rw [run, stopped]
  rfl

/-- A run that ends neither with success nor with what the system refuses has changed nothing. -/
theorem unchanged_of_exitCode (tame : Host.Tame view) {args : List String}
    {env : Settings.Variables} {st : σ}
    (fails : ((run args env : StateM σ Ending).run st).1.exitCode ≠ 0)
    (by_itself : ((run args env : StateM σ Ending).run st).1.exitCode ≠ 1) :
    view ((run args env : StateM σ Ending).run st).2 = view st := by
  cases asked : read args with
  | error stop => rw [run_stopped asked]
  | ok i =>
      rw [run_eq_ends asked] at fails by_itself ⊢
      cases result : (ends (perform i env : ExceptT Failure (StateM σ) Printed) st).1 with
      | ok printed =>
          rw [result] at fails
          exact absurd rfl fails
      | error failure =>
          rw [result] at by_itself
          exact (settles_perform tame i env).unchanged st failure result by_itself

/-- A run that ends with exit code two or three leaves all files as they were. A report is put
where it is asked for; with that elsewhere, commands that only read leave the data as they are,
and those that write leave the document of the other kind alone: only where nothing stood a
directory may be made in its place, if the path of the data leads through there. -/
theorem run_leaves_no_trace (tame : Host.Tame view) (args : List String)
    (env : Settings.Variables) (st : σ) :
    let ran : Ending × σ := (run args env : StateM σ Ending).run st
    (ran.1.exitCode = 2 ∨ ran.1.exitCode = 3 → view ran.2 = view st) ∧
      ∀ i, read args = .ok i → i.DeliversElsewhere env →
        (i.command.readsOnly = true →
          ∀ place, (i.root env).goal <+: place → view ran.2 place = view st place) ∧
        ∀ key, i.command.otherKey? = some key →
          let place := (Store.fileOf (i.root env) key).goal
          (".." ∉ (i.root env).names → view ran.2 place = view st place) ∧
            (view ran.2 place = view st place ∨
              (i.root env).Passes place ∧ view st place = none ∧
                view ran.2 place = some .dir) := by
  intro ran
  have unchanged : ran.1.exitCode ≠ 0 → ran.1.exitCode ≠ 1 → view ran.2 = view st :=
    unchanged_of_exitCode tame
  refine ⟨fun code => unchanged (by omega) (by omega), ?_⟩
  intro i asked elsewhere
  have left : ran.2 = (ends (perform i env) st).2 := congrArg Prod.snd (run_eq_ends asked env st)
  have reach : Files.Reach (i.command.allowedSteps (i.root env)) (view st) (view ran.2) :=
    left ▸ (settles_perform tame i env).performs st
  refine ⟨fun reads place inside => ?_, fun key other => ?_⟩
  · exact (reach.mono (allowedSteps_of_readsOnly _ reads)).eq_at
      (deliverySteps_spare elsewhere inside)
  · have changes := reach.eq_or_made (allowedSteps_spare_other elsewhere other)
    refine ⟨fun down => changes.resolve_right fun made => ?_, changes⟩
    rw [goal_of_otherKey other] at made
    exact Disk.not_passes_below down _ made.1

end

/-- Blank input and an unknown feature, and with documents of both kinds an analysis that is put
into a file and not kept, one that is kept, and a bookmark that is added. -/
theorem run_leaves_no_trace_beside_documents :
    let env : Settings.Variables := fun _ => none
    let disk : Disk :=
      ⟨[(["data"], .dir), (["data", "baseline-history.json"], .text "[]"),
        (["data", "baseline-bookmarks.json"], .text "[]")]⟩
    let run (args : List String) (input : String) : Ending × Machine :=
      (run args env : StateM Machine Ending).run (.start disk input)
    (run ["analyze", "-o", "data/report"] " ").1.exitCode = 2 ∧
      (run ["analyze", "-o", "data/report"] " ").2.node? = disk.node? ∧
      (run ["docs", "nothing"] "").1.exitCode = 3 ∧
      (run ["docs", "nothing"] "").2.node? = disk.node? ∧
      (∀ place, ["data"] <+: place →
        (run ["--data-dir", "data", "analyze", "--no-history", "-o", "report"] "x").2.node? place =
          disk.node? place) ∧
      (run ["--data-dir", "data", "analyze"] "x").2.node? ["data", "baseline-bookmarks.json"] =
        some (.text "[]") ∧
      (run ["--data-dir", "data", "bookmark", "add", "n"] "x").2.node?
        ["data", "baseline-history.json"] = some (.text "[]") := by
  intro env disk run
  have holds (args : List String) (input : String) :=
    run_leaves_no_trace Machine.tame args env (.start disk input)
  have blank : (run ["analyze", "-o", "data/report"] " ").1.exitCode = 2 := by decide +kernel
  have unknown : (run ["docs", "nothing"] "").1.exitCode = 3 := by decide +kernel
  have root : (Path.ofString "data").goal = ["data"] := by decide +kernel
  have bookmarks_place : (Store.fileOf (Path.ofString "data") (Kept.key Bookmark)).goal =
      ["data", "baseline-bookmarks.json"] := by decide +kernel
  have history_place : (Store.fileOf (Path.ofString "data") (Kept.key HistoryItem)).goal =
      ["data", "baseline-history.json"] := by decide +kernel
  obtain ⟨_, reads⟩ := holds ["--data-dir", "data", "analyze", "--no-history", "-o", "report"] "x"
  obtain ⟨told, _⟩ := reads
    ⟨none, some "data", .analyze none .text (some "report") false false .none⟩
    (by decide +kernel) (by decide +kernel)
  obtain ⟨_, records⟩ := holds ["--data-dir", "data", "analyze"] "x"
  obtain ⟨_, bookmarks⟩ := records
    ⟨none, some "data", .analyze none .text none true false .none⟩
    (by decide +kernel) (by decide +kernel)
  obtain ⟨_, adds⟩ := holds ["--data-dir", "data", "bookmark", "add", "n"] "x"
  obtain ⟨_, history⟩ := adds ⟨none, some "data", .bookmarkAdd "n" none⟩
    (by decide +kernel) (by decide +kernel)
  have bookmarks_kept : (run ["--data-dir", "data", "analyze"] "x").2.node?
      (Store.fileOf (Path.ofString "data") (Kept.key Bookmark)).goal = disk.node? _ :=
    (bookmarks _ rfl).1 (by decide +kernel)
  have history_kept : (run ["--data-dir", "data", "bookmark", "add", "n"] "x").2.node?
      (Store.fileOf (Path.ofString "data") (Kept.key HistoryItem)).goal = disk.node? _ :=
    (history _ rfl).1 (by decide +kernel)
  rw [bookmarks_place] at bookmarks_kept
  rw [history_place] at history_kept
  exact ⟨blank, (holds _ _).1 (.inl blank), unknown, (holds _ _).1 (.inr unknown),
    fun place inside => told rfl place (root.symm ▸ inside),
    bookmarks_kept.trans (by decide), history_kept.trans (by decide)⟩

/-- The way to the data may lead through the place of a document. An analysis makes the
directories that are missing on it, and the bookmarks, of which there were none, can no longer be
listed. -/
theorem analyze_blocks_bookmarks_on_its_way :
    let env : Settings.Variables := fun _ => none
    let run (args : List String) (w : Machine) : Ending × Machine :=
      (run ("--data-dir" :: "data/baseline-bookmarks.json/.." :: args) env :
        StateM Machine Ending).run w
    let before := Machine.start .empty "x"
    let after := (run ["analyze"] before).2
    let place := ["data", "baseline-bookmarks.json"]
    before.node? place = none ∧ after.node? place = some .dir ∧
      (run ["bookmark", "list"] before).1 = ⟨0, "No bookmarks yet.\n", none⟩ ∧
      (run ["bookmark", "list"] after).1.exitCode = 1 := by
  decide +kernel

end Command

end FeatureScan
