import FeatureScan.Proofs.CommandTraces
import FeatureScan.Proofs.TwinRuns

/-!
What an analysis prints is decided by the dataset and the snippet. Everything that depends on the
kept data happens while the analysis is recorded, between looking at the snippet and printing the
report, and nothing of that is asked for again.
-/

namespace FeatureScan

namespace Path

/-- The path looks at nothing in a directory: where it leads through it, directories stand. -/
def StaysOutside (p root : Path) (files : Files) : Prop :=
  ∀ place, p.Passes place → root.goal <+: place → files place = some .dir

theorem staysOutside_of_down {p root : Path} (down : ".." ∉ p.names)
    (outside : ¬ root.goal <+: p.goal) (files : Files) : p.StaysOutside root files :=
  fun _ passes inside => absurd (inside.trans (Disk.prefix_goal_of_passes down passes)) outside

end Path

namespace Report

/-- What a report shows of the time. -/
def stamp : Format → Instant → String
  | .text, _ => ""
  | .json, t => String.ofList (Json.writeText (t.toText .millis))
  | .markdown, t => t.toSecondText

/-- The rest of a report does not depend on the time. -/
theorem exists_stamped (a : Analysis) (options : TextOptions) (format : Format) :
    ∃ front back, ∀ t, render a t options format = front ++ stamp format t ++ back := by
  cases format with
  | text => exact ⟨text a options, "", fun t => by simp [render, stamp]⟩
  | json =>
      let layout : Json.Layout := .lines 1
      let front := '\x7b' :: layout.lineBreak ++ Json.writeText "timestamp" ++ layout.colon
      let members := [("language", a.language.toJson), ("summary", a.summary.toJson),
        ("features", Json.list (a.features.map Feature.toJson))]
      let back := Json.writeMembers layout members ++ (Json.Layout.lines 0).lineBreak ++ ['\x7d']
      refine ⟨String.ofList front, String.ofList back, fun t => ?_⟩
      rw [← String.toList_inj]
      simp [render, stamp, Analysis.toReport, Json.pretty, Json.write, Json.writeMember,
        Json.Layout.inner, front, back, layout, members]
  | markdown =>
      by_cases empty : a.isEmpty = true
      -- Both forms begin alike; what comes after the time is whatever the form says.
      all_goals
        apply Exists.intro "# Baseline Report\n\n*Generated on "
        apply Exists.intro
        intro t
        simp only [render, markdown, stamp, String.append_assoc, empty, if_true, if_false,
          Bool.false_eq_true]
        rfl

end Report

namespace Command

/-- What ends alike at all times, but for what the report shows of the time. -/
inductive Ending.Stamped (format : Report.Format) : (Instant → Ending) → Prop
  | fixed (ending : Ending) : Stamped format fun _ => ending
  | stamped (code : Nat) (front back : String) (told : Option String) :
      Stamped format fun t => ⟨code, front ++ Report.stamp format t ++ back, told⟩

/-- The files that an analysis reads, as far as it reads any: the dataset and the snippet. -/
def Invocation.sources (i : Invocation) (env : Settings.Variables) (file : Option String) :
    List Path :=
  ((Settings.dataset i.dataset env).toList ++ (file.filter (· ≠ "-")).toList).map Path.ofString

section

variable {σ : Type} {before : σ → σ → Prop}

/-- A text that was read is checked alike. -/
theorem twins_checked (r : Except FileFault String) :
    Twins before before (match r with
      | .error fault => throw (.file fault)
      | .ok code =>
          match requireCode code with
          | .error fault => throw fault
          | .ok code => return code : ExceptT AppFault (StateM σ) String) := by
  split
  · exact twins_throw _
  · split
    · exact twins_throw _
    · exact twins_pure _

theorem twins_analyzeSnippet (app : App (StateM σ)) (code : String) :
    Twins before before (analyzeSnippet app code : ExceptT Failure (StateM σ) Analysis) := by
  rw [analyzeSnippet]
  split
  · exact twins_pure _
  · exact twins_throw _

end

section

variable {σ : Type} [Host (StateM σ)] {view : σ → Files}

/-- What is read of these paths and of the standard input is the same. -/
structure ReadAlike (view : σ → Files) (sources : List Path) (st st' : σ) : Prop where
  files : ∀ p ∈ sources, ∀ place, p.Passes place → view st place = view st' place
  input : ((Host.input : StateM σ _).run st).1 = ((Host.input : StateM σ _).run st').1

variable (plain : Host.Plain view) {sources : List Path}
include plain

theorem twins_read {ε : Type} {p : Path} (source : p ∈ sources) :
    Twins (ReadAlike view sources) (ReadAlike view sources)
      (liftM (FileSystem.read p : StateM σ _) : ExceptT ε (StateM σ) _) := by
  apply Twins.lift
  intro st st' alike
  refine ⟨plain.read_congr p st st' (alike.files p source), ?_, ?_⟩
  · rw [plain.read, plain.read]
    exact alike.files
  · rw [plain.input_after_read, plain.input_after_read]
    exact alike.input

theorem twins_loadDataset {file : Option Path} (source : ∀ p ∈ file, p ∈ sources) :
    Twins (ReadAlike view sources) (ReadAlike view sources)
      (loadDataset file : ExceptT AppFault (StateM σ) Dataset) := by
  cases file with
  | none => exact twins_pure _
  | some file =>
      apply (twins_read plain (source file rfl)).bind
      intro r
      split
      · exact twins_throw _
      · split
        · exact twins_throw _
        · exact twins_pure _

theorem twins_readCode {p : Path} (source : p ∈ sources) :
    Twins (ReadAlike view sources) (ReadAlike view sources)
      (readCode p : ExceptT AppFault (StateM σ) String) :=
  (twins_read plain source).bind twins_checked

theorem twins_snippet {file : Option String}
    (source : ∀ name ∈ file.filter (· ≠ "-"), Path.ofString name ∈ sources) :
    Twins (ReadAlike view sources) (fun _ _ => True)
      (snippet file : ExceptT AppFault (StateM σ) String) := by
  rw [snippet]
  split
  next name named => exact (twins_readCode plain (source name named)).anyhow
  next =>
    have asked : Twins (ReadAlike view sources) (fun _ _ => True)
        (liftM (Host.input : StateM σ _) : ExceptT AppFault (StateM σ) _) :=
      Twins.lift fun st st' alike => ⟨alike.input, trivial⟩
    exact asked.bind twins_checked

end

section

variable {σ : Type} {before middle : σ → σ → Prop}

/-- From states that are related, the computation is told alike, but for what a report of the format
shows of the time. -/
def ToldAlike (before : σ → σ → Prop) (format : Report.Format)
    (x : ExceptT Failure (StateM σ) Printed) : Prop :=
  ∀ st st', before st st' → ∃ ending time time', Ending.Stamped format ending ∧
    Ending.ofResult (ends x st).1 = ending time ∧ Ending.ofResult (ends x st').1 = ending time'

theorem ToldAlike.after {α : Type} {format : Report.Format} {x : ExceptT Failure (StateM σ) α}
    {f : α → ExceptT Failure (StateM σ) Printed} (first : Twins before middle x)
    (later : ∀ a, ToldAlike middle format (f a)) : ToldAlike before format (x >>= f) := by
  intro st st' related
  obtain ⟨same, kept⟩ := first st st' related
  cases result : (ends x st).1 with
  | ok a =>
      rw [ends_bind_ok result, ends_bind_ok (same.symm.trans result)]
      exact later a _ _ (kept a result)
  | error e =>
      rw [ends_bind_error result, ends_bind_error (same.symm.trans result)]
      exact ⟨_, ⟨0, 0⟩, ⟨0, 0⟩, .fixed (.ofResult (.error e)), rfl, rfl⟩

theorem toldAlike_of_rendered {format : Report.Format} {x : ExceptT Failure (StateM σ) Printed}
    (a : Analysis) (options : Report.TextOptions)
    (shows : ∀ st, ∃ time,
      Ending.ofResult (ends x st).1 = ⟨0, Report.render a time options format, none⟩) :
    ToldAlike before format x := by
  intro st st' _
  obtain ⟨front, back, shown⟩ := Report.exists_stamped a options format
  obtain ⟨time, told⟩ := shows st
  obtain ⟨time', told'⟩ := shows st'
  rw [shown] at told told'
  exact ⟨_, time, time', .stamped 0 front back none, told, told'⟩

variable [Host (StateM σ)]

/-- The report shows what was found, whatever became of the record. -/
theorem toldAlike_report (app : App (StateM σ)) (code : String) (a : Analysis)
    (format : Report.Format) (keep : Bool) (options : Report.TextOptions) :
    ToldAlike before format (do
      if keep then
        let _ ← app.record (← Host.freshId (m := StateM σ)) (← Host.now (m := StateM σ)) code a
      deliver (← rendered a format options) none) := by
  apply toldAlike_of_rendered a options
  intro st
  cases keep with
  | false | true => exact ⟨_, rfl⟩

variable {view : σ → Files} (plain : Host.Plain view)
include plain

theorem toldAlike_analyze (i : Invocation) (env : Settings.Variables) {file : Option String}
    {format : Report.Format} {keep docs : Bool} {listing : Listing}
    (asked : i.command = .analyze file format none keep docs listing) :
    ToldAlike (ReadAlike view (i.sources env file)) format
      (perform i env : ExceptT Failure (StateM σ) Printed) := by
  have dataset_source : ∀ p ∈ (Settings.dataset i.dataset env).map Path.ofString,
      p ∈ i.sources env file := by
    intro p source
    obtain ⟨name, named, rfl⟩ := Option.map_eq_some_iff.mp source
    refine List.mem_map_of_mem (List.mem_append_left _ ?_)
    exact Option.mem_toList.mpr named
  have snippet_source : ∀ name ∈ file.filter (· ≠ "-"),
      Path.ofString name ∈ i.sources env file := by
    intro name named
    refine List.mem_map_of_mem (List.mem_append_right _ ?_)
    exact Option.mem_toList.mpr named
  simp only [perform, asked, openApp, bind_assoc, pure_bind]
  apply ToldAlike.after ((twins_loadDataset plain dataset_source).adapt _)
  intro d
  apply ToldAlike.after ((twins_snippet plain snippet_source).adapt _)
  intro code
  apply ToldAlike.after (twins_analyzeSnippet _ code)
  intro a
  exact toldAlike_report _ code a format keep ⟨docs, listing.query?⟩

/-- What an analysis prints does not depend on the data that the program keeps. Whatever stands in
their directory in two states, and whether the analysis can be recorded there or not, a run that
puts its report out and reads nothing in the directory ends the same, but for the time that a
report in JSON or Markdown shows. A command line that asks for nothing ends the same too. -/
theorem analysis_blind_to_data (args : List String) (env : Settings.Variables) (st st' : σ)
    (input : ((Host.input : StateM σ _).run st).1 = ((Host.input : StateM σ _).run st').1) :
    let ending (begun : σ) : Ending := ((run args env : StateM σ Ending).run begun).1
    (∀ stop, read args = .error stop → ending st = ending st') ∧
      ∀ i file format keep docs listing, read args = .ok i →
        i.command = .analyze file format none keep docs listing →
        (∀ place, ¬ (i.root env).goal <+: place → view st place = view st' place) →
        (∀ p ∈ i.sources env file, p.StaysOutside (i.root env) (view st) ∧
          p.StaysOutside (i.root env) (view st')) →
        (∃ shown time time', Ending.Stamped format shown ∧
          ending st = shown time ∧ ending st' = shown time') ∧
        (format = .text → ending st = ending st') := by
  intro ending
  refine ⟨fun stop stopped => ?_, ?_⟩
  · simp only [ending, run_stopped stopped]
  intro i file format keep docs listing given asked outside from_outside
  have alike : ReadAlike view (i.sources env file) st st' := by
    refine ⟨fun p source place passes => ?_, input⟩
    by_cases inside : (i.root env).goal <+: place
    · obtain ⟨before, before'⟩ := from_outside p source
      rw [before place passes inside, before' place passes inside]
    · exact outside place inside
  have ends_as : ∀ begun, ending begun = .ofResult (ends (perform i env) begun).1 :=
    fun begun => congrArg Prod.fst (run_eq_ends given env begun)
  obtain ⟨shown, time, time', stamped, first, second⟩ :=
    toldAlike_analyze plain i env asked st st' alike
  rw [← ends_as] at first second
  refine ⟨⟨shown, time, time', stamped, first, second⟩, fun text => ?_⟩
  subst text
  rw [first, second]
  cases stamped with
  | fixed | stamped => rfl

end

/-- No data, data that were tampered with, and a file in the place of the directory. Of two
reports in JSON each shows a time, and nothing else differs. -/
theorem analysis_blind_to_three_data :
    let env : Settings.Variables := fun _ => none
    let tampered : List (Place × Node) :=
      [(["data"], .dir), (["data", "baseline-history.json"], .text "[\x7b\x7d]")]
    let ending (data : List (Place × Node)) (time : Instant) (args : List String) : Ending :=
      ((run (["--data-dir", "data", "analyze", "x.css"] ++ args) env :
        StateM Machine Ending).run
          ⟨⟨(["x.css"], .text "gap: 1px") :: data⟩, .ok "", fun _ => time, 0, 0⟩).1
    ending [] ⟨0, 0⟩ [] = ending tampered ⟨1, 0⟩ [] ∧
      ending [] ⟨0, 0⟩ [] = ending [(["data"], .text "")] ⟨2, 0⟩ [] ∧
      ∃ shown time time', Ending.Stamped .json shown ∧
        ending [] ⟨0, 0⟩ ["-f", "json"] = shown time ∧
        ending tampered ⟨1, 0⟩ ["-f", "json"] = shown time' := by
  intro env tampered ending
  have root : (Path.ofString "data").goal = ["data"] := by decide +kernel
  have down : ".." ∉ (Path.ofString "x.css").names := by decide +kernel
  have apart : ¬ (Path.ofString "data").goal <+: (Path.ofString "x.css").goal := by decide +kernel
  have holds (data data' : List (Place × Node)) (time time' : Instant) (args : List String)
      (format : Report.Format) (below : ∀ e ∈ data, ["data"] <+: e.1)
      (below' : ∀ e ∈ data', ["data"] <+: e.1)
      (given : read (["--data-dir", "data", "analyze", "x.css"] ++ args) =
        .ok ⟨none, some "data", .analyze (some "x.css") format none true false .none⟩) := by
    obtain ⟨_, alike⟩ := analysis_blind_to_data Machine.plain
      (["--data-dir", "data", "analyze", "x.css"] ++ args) env
      ⟨⟨[(["x.css"], .text "gap: 1px")] ++ data⟩, .ok "", fun _ => time, 0, 0⟩
      ⟨⟨[(["x.css"], .text "gap: 1px")] ++ data'⟩, .ok "", fun _ => time', 0, 0⟩ rfl
    apply alike _ (some "x.css") format true false .none given rfl
    · intro place away
      have outside : ¬ ["data"] <+: place := by rwa [← root]
      exact (Disk.node?_append below outside).trans (Disk.node?_append below' outside).symm
    · intro p source
      cases List.mem_singleton.mp source
      exact ⟨Path.staysOutside_of_down down apart _, Path.staysOutside_of_down down apart _⟩
  have text : read (["--data-dir", "data", "analyze", "x.css"] ++ []) =
      .ok ⟨none, some "data", .analyze (some "x.css") .text none true false .none⟩ := by
    decide +kernel
  have json : read (["--data-dir", "data", "analyze", "x.css"] ++ ["-f", "json"]) =
      .ok ⟨none, some "data", .analyze (some "x.css") .json none true false .none⟩ := by
    decide +kernel
  exact ⟨(holds [] tampered ⟨0, 0⟩ ⟨1, 0⟩ _ _ (by simp) (by decide) text).2 rfl,
    (holds [] [(["data"], .text "")] ⟨0, 0⟩ ⟨2, 0⟩ _ _ (by simp) (by decide) text).2 rfl,
    (holds [] tampered ⟨0, 0⟩ ⟨1, 0⟩ _ _ (by simp) (by decide) json).1⟩

end Command
end FeatureScan
