import FeatureScan.Proofs.HaltedSteps
import FeatureScan.Proofs.RefusedNames

/-!
Setting a text under a key is all or nothing. Until the draft is renamed a store cannot tell the
directory from the one that it found: it reads no draft, and a draft is in the way of nothing.
-/

namespace FeatureScan
namespace Store

variable {σ : Type} {root : Path} {Names : String → Prop} {Shows : σ → Folder → Prop}

/-- The answer and the state after steps on a file system. -/
def runSteps (fs : FileSystem (StateM σ)) (root : Path) (steps : List FolderStep) (st : σ) :
    Except FileFault Unit × σ :=
  (@FileSystem.performAll (StateM σ) _ fs (steps.map (FolderStep.under root))).run st

theorem runSteps_cons (fs : FileSystem (StateM σ)) (root : Path) (step : FolderStep)
    (rest : List FolderStep) (st : σ) :
    runSteps fs root (step :: rest) st =
      match (fs.perform (step.under root)).run st with
      | (.ok (), st') => runSteps fs root rest st'
      | (.error fault, st') => (.error fault, st') := by
  rw [runSteps, List.map_cons, FileSystem.performAll, StateT.run_bind]
  generalize (fs.perform (step.under root)).run st = outcome
  rcases outcome with ⟨_ | _, st'⟩ <;> rfl

theorem stopsAfter_of_runSteps {fs : FileSystem (StateM σ)} {steps : List FolderStep}
    (may : MayFail fs root Shows steps) {dir : Folder} (still : dir.StaysPut steps) {st : σ}
    (shows : Shows st dir) :
    ∃ n dir', StopsAfter n steps dir dir' ∧ Shows (runSteps fs root steps st).2 dir' ∧
      ((runSteps fs root steps st).1 = .ok () ↔ n = steps.length) := by
  induction steps generalizing dir st with
  | nil => exact ⟨0, dir, rfl, shows, iff_of_true rfl rfl⟩
  | cons step rest ih =>
      have first := may step List.mem_cons_self dir st shows still.1
      have later : MayFail fs root Shows rest := fun s hs => may s (List.mem_cons_of_mem step hs)
      rw [runSteps_cons]
      generalize (fs.perform (step.under root)).run st = outcome at first ⊢
      rcases outcome with ⟨_ | ⟨⟩, st'⟩
      · obtain ⟨dir', part, shows'⟩ := first
        exact ⟨0, dir', part, shows', by simp⟩
      · obtain ⟨next, done, shows'⟩ := first
        obtain ⟨n, dir', stopped, shows'', complete⟩ := ih later (still.2 next done) shows'
        exact ⟨n + 1, dir', ⟨next, done, stopped⟩, shows'', complete.trans Nat.succ_inj.symm⟩

theorem run_set (fs : FileSystem (StateM σ)) (root : Path) {key : String} (valid : isKey key = true)
    (text : String) (st : σ) :
    run ((@files (StateM σ) _ fs root).set key text) st =
      ((runSteps fs root (Folder.setSteps key text) st).1.mapError StoreFault.file,
        (runSteps fs root (Folder.setSteps key text) st).2) := by
  change run (checkKey key >>= fun _ => _) st = _
  rw [KeepsFolder.checkKey_bind valid, run, KeepsFolder.run_lift_bind, StateT.run_bind]
  obtain ⟨answer, st', outcome⟩ : ∃ answer st',
      runSteps fs root (Folder.setSteps key text) st = (answer, st') := ⟨_, _, rfl⟩
  have performed : (@FileSystem.performAll (StateM σ) _ fs (setSteps root key text)).run st =
      (answer, st') := outcome
  rw [performed, outcome]
  cases answer <;> rfl

section

variable [FileSystem (StateM σ)] (law : KeepsFolder root Names Shows)
  (refuses : RefusesOthers root Names Shows)
include law refuses

/-- Stores in alike directories give the same answers, also to calls whose files have names that
are refused, if both directories are there. -/
theorem answers_eq_of_alike {dir dir' : Folder} (alike : dir.Alike dir') {st st' : σ}
    (shows : Shows st dir) (shows' : Shows st' dir') {calls : List StoreCall}
    (fits : (∀ c ∈ calls, c.Fits Names) ∨ dir ≠ .missing ∧ dir' ≠ .missing) :
    answers (files root) calls st' = answers (files root) calls st := by
  refine answers_eq_of_lockstep
    (R := fun st' st => ∃ dir dir', dir.Alike dir' ∧ Shows st dir ∧ Shows st' dir' ∧
      ((∀ c ∈ calls, c.Fits Names) ∨ dir ≠ .missing ∧ dir' ≠ .missing)) ?_
    ⟨dir, dir', alike, shows, shows', fits⟩
  rintro c hc st' st ⟨dir, dir', alike, shows, shows', fits⟩
  by_cases fit : c.Fits Names
  · obtain ⟨answer, left⟩ := (law.leads_perform fit dir).run shows
    obtain ⟨answer', left'⟩ := (law.leads_perform fit dir').run shows'
    obtain ⟨same, alike'⟩ := alike.call c
    exact ⟨answer'.trans (same.symm.trans answer.symm), _, _, alike', left, left',
      fits.imp_right fun there => there.imp (Folder.call_ne_missing · c) (Folder.call_ne_missing · c)⟩
  · have there := fits.resolve_left fun all => fit (all c hc)
    obtain ⟨refusal, refused⟩ := refuses.leads_perform law fit
    obtain ⟨answer, left⟩ := (refused there.1).run shows
    obtain ⟨answer', left'⟩ := (refused there.2).run shows'
    exact ⟨answer'.trans answer.symm, _, _, alike, left, left', .inr there⟩

theorem get_of_stored {key text : String} (valid : isKey key = true) {dir : Folder} {st st' : σ}
    (shows : Shows st dir) (shows' : Shows st' (dir.stored key text)) {other : String}
    (fits : other = key ∨ dir = .missing → (StoreCall.get other).Fits Names) :
    (run ((files root).get other) st').1 =
      if other = key then .ok (some text) else (run ((files root).get other) st).1 := by
  by_cases fit : (StoreCall.get other).Fits Names
  · rw [((law.leads_get fit _).run shows').1, ((law.leads_get fit dir).run shows).1,
      dir.get_stored valid text other]
    simp only [eq_comm]
  · obtain ⟨apart, there⟩ := not_or.mp (mt fits fit)
    obtain ⟨valid', refused⟩ := Classical.not_imp.mp fit
    obtain ⟨r, leads⟩ := refuses.leads_get valid' refused
    cases dir with
    | missing => exact absurd rfl there
    | holding nodes => rw [if_neg apart, ((leads _).run shows').1, ((leads nodes).run shows).1]

omit refuses

/-- A directory that is alike, or in which a text is stored, is in the way of no other text. -/
theorem set_of_stopsAfter {n : Nat} {key text : String} {dir dir' : Folder} {st' : σ}
    (stopped : StopsAfter n (Folder.setSteps key text) dir dir') (shows' : Shows st' dir')
    {other : String} (valid : isKey other = true) (file : Names (fileName other))
    (draft : Names (draftName other)) (no_file : dir.node? (fileName other) ≠ some .dir)
    (no_draft : dir.node? (draftName other) ≠ some .dir) (text' : String) :
    (run ((files root).set other text') st').1 = .ok () := by
  rw [((law.leads_set (fun _ => ⟨file, draft⟩) text' dir').run shows').1]
  rcases Nat.lt_or_eq_of_le (Folder.le_of_stopsAfter stopped) with early | rfl
  · have alike := Folder.alike_of_stopsAfter stopped early
    rw [← (alike.set other text').1, Folder.set_of_free valid no_draft no_file]
  · rw [Folder.eq_stored_of_stopsAfter stopped, Folder.set_of_free valid]
    · rw [Folder.node?_stored_draftName]
      split
      · simp
      · exact no_draft
    · rw [Folder.node?_stored_fileName]
      split
      · simp
      · exact no_file

end
end Store

namespace Disk

variable {root : Path}

/-- A disk without room: of a text only the first character is written. -/
@[reducible] def withoutRoom : FileSystem (StateM Disk) where
  read := FileSystem.read
  list := FileSystem.list
  perform
    | .write file text => do
        match (← get).perform (.write file (String.ofList (text.toList.take 1))) with
        | .ok d => set d
        | .error _ => pure ()
        return .error (.other "No space left on device (os error 28)")
    | step => FileSystem.perform step

theorem mayFail_withoutRoom (plain : IsPlain root) {steps : List FolderStep}
    (names : ∀ step ∈ steps, ∀ name ∈ step.names, IsName name) :
    MayFail withoutRoom root (Shows root) steps := by
  intro step hs dir d shows still
  cases step with
  | write name text =>
      let part := String.ofList (text.toList.take 1)
      have performed : (withoutRoom.perform (.write (root.child name) text)).run d =
          (.error (.other "No space left on device (os error 28)"),
            (d.perform (.write (root.child name) part)).toOption.getD d) := by
        change (match d.perform (.write (root.child name) part) with
          | .ok d => _
          | .error _ => _ : StateM Disk _).run d = _
        cases d.perform (.write (root.child name) part) <;> rfl
      rw [FolderStep.under, performed]
      have follows : Follows root d (.write name part) (dir.perform (.write name part)) :=
        shows.follows plain (names (.write name text) hs) rfl
      cases result : dir.perform (.write name part) with
      | error fault =>
          rw [result] at follows
          have refused : d.perform (.write (root.child name) part) = .error fault := follows
          rw [refused]
          exact ⟨dir, .inl rfl, shows⟩
      | ok dir' =>
          rw [result] at follows
          obtain ⟨d', done, shows'⟩ := follows
          have done : d.perform (.write (root.child name) part) = .ok d' := done
          rw [done]
          obtain ⟨free, same⟩ := Folder.perform_write_eq_ok result
          exact ⟨dir', .inr ⟨.text part, by simp, free, same⟩, shows'⟩
  | create | rename | remove =>
      exact (keepsFolder plain).mayFail names _ hs dir d shows still

end Disk

namespace Store

section

variable {root : Path} (plain : Disk.IsPlain root) {d : Disk} {dir : Folder}
  (shows : Disk.Shows root d dir) {key : String} (valid : isKey key = true)
include plain shows valid

theorem get_of_overlong (long : Disk.longestName < (fileName key).utf8ByteSize) :
    (run ((files root).get key) d).1 =
      match dir with
      | .missing => .ok none
      | .holding _ => .error (.file .nameTooLong) := by
  have read : (FileSystem.read (fileOf root key) : StateM Disk _).run d =
      (d.read (root.child (fileName key)), d) := rfl
  change (run (checkKey key >>= fun _ => _) d).1 = _
  rw [KeepsFolder.checkKey_bind valid, run, KeepsFolder.run_lift_bind, StateT.run_bind, read,
    shows.read_overlong plain long]
  cases dir <;> rfl

/-- Setting the key comes no further than to make the directory. -/
theorem set_of_overlong (long : Disk.longestName < (draftName key).utf8ByteSize) (text : String) :
    ∃ d', run ((files root).set key text) d = (.error (.file .nameTooLong), d') ∧
      Disk.Shows root d' dir.create := by
  obtain ⟨d', made, shows'⟩ := shows.createDirs plain
  refine ⟨d', ?_, shows'⟩
  rw [run_set _ root valid, Folder.setSteps, runSteps_cons, FolderStep.under, Disk.run_perform, made]
  dsimp only
  rw [runSteps_cons, FolderStep.under, Disk.run_perform, shows'.write_overlong plain long]
  rfl

end

/-- Setting a text may stop after any of its steps, on the way of the next one, or be stopped by
a step that fails. Before the last step a store answers all later calls as if nothing had been
set; after it the text stands under its key and nothing else is changed. What is left of a draft
is in no later call's way. Only where the directory was missing, a name that the file system does
not take is first found absent and then refused. -/
theorem set_all_or_nothing {σ : Type} [FileSystem (StateM σ)] {root : Path}
    {Names : String → Prop} {Shows : σ → Folder → Prop} (law : KeepsFolder root Names Shows)
    (refuses : RefusesOthers root Names Shows) {key text : String} (valid : isKey key = true)
    {steps : List FolderStep}
    (split : steps.map (FolderStep.under root) = setSteps root key text) {dir : Folder} {st : σ}
    (shows : Shows st dir) :
    (∀ n dir' st', StopsAfter n steps dir dir' → Shows st' dir' →
      (n < steps.length → ∀ calls, (dir = .missing → ∀ c ∈ calls, c.Fits Names) →
        answers (files root) calls st' = answers (files root) calls st) ∧
      (n = steps.length → ∀ other,
        (other = key ∨ dir = .missing → (StoreCall.get other).Fits Names) →
        (run ((files root).get other) st').1 =
          if other = key then .ok (some text) else (run ((files root).get other) st).1) ∧
      ∀ other text', isKey other = true → Names (fileName other) → Names (draftName other) →
        dir.node? (fileName other) ≠ some .dir → dir.node? (draftName other) ≠ some .dir →
        (run ((files root).set other text') st').1 = .ok ()) ∧
    ∀ fs : FileSystem (StateM σ), MayFail fs root Shows steps →
      ∃ n dir', StopsAfter n steps dir dir' ∧
        Shows (run ((@files (StateM σ) _ fs root).set key text) st).2 dir' ∧
        ((run ((@files (StateM σ) _ fs root).set key text) st).1 = .ok () ↔ n = steps.length) := by
  obtain rfl : steps = Folder.setSteps key text :=
    List.map_injective_iff.mpr (FolderStep.under_injective root) split
  constructor
  · intro n dir' st' stopped shows'
    refine ⟨fun early calls fits => ?_, fun complete other fits => ?_,
      fun other text' valid' file draft no_file no_draft =>
        set_of_stopsAfter law stopped shows' valid' file draft no_file no_draft text'⟩
    · have alike := Folder.alike_of_stopsAfter stopped early
      refine answers_eq_of_alike law refuses alike shows shows' ?_
      by_cases missing : dir = .missing
      · exact .inl (fits missing)
      · exact .inr ⟨missing, Folder.ne_missing_of_stopsAfter stopped missing⟩
    · subst complete
      obtain rfl := Folder.eq_stored_of_stopsAfter stopped
      exact get_of_stored law refuses valid shows shows' fits
  · intro fs may
    obtain ⟨n, dir', stopped, shows', complete⟩ :=
      stopsAfter_of_runSteps may (dir.staysPut_setSteps key text) shows
    rw [run_set fs root valid]
    refine ⟨n, dir', stopped, shows', Iff.trans ?_ complete⟩
    cases (runSteps fs root (Folder.setSteps key text) st).1 <;> simp [Except.mapError]

/-- On a disk without room setting a text leaves a draft, beside another one, and fails. -/
theorem set_nothing_without_room :
    let root : Path := ⟨false, ["data"]⟩
    let d : Disk := ⟨[(["data"], .dir), (["data", "a.json"], .text "[1]"),
      (["data", "b.json.tmp"], .bytes [0xc3])]⟩
    let outcome := run ((@files (StateM Disk) _ Disk.withoutRoom root).set "a" "[2]") d
    let calls : List StoreCall := [.get "a", .keys, .set "b" "3", .set "a" "4", .get "a", .keys]
    outcome.1 = .error (.file (.other "No space left on device (os error 28)")) ∧
      answers (files root) calls outcome.2 = answers (files root) calls d := by
  intro root d outcome calls
  have plain : Disk.IsPlain root := ⟨by decide, by decide⟩
  have failed : outcome.1 = .error (.file (.other "No space left on device (os error 28)")) := by
    decide +kernel
  obtain ⟨d', made, shows⟩ := (Disk.shows_empty plain (by decide)).createDirs plain
  cases made
  let file := Folder.missing.create.put "a.json" (.text "[1]")
  let draft := file.put "b.json.tmp" (.bytes [0xc3])
  have shows_file : Disk.Shows root _ file := shows.put rfl (by decide) _
  have shows_draft : Disk.Shows root _ draft := shows_file.put rfl (by decide) _
  have here : Disk.Shows root d draft := by
    convert shows_draft using 1
    decide +kernel
  have valid : isKey "a" = true := by decide
  obtain ⟨stops, fails⟩ := set_all_or_nothing (Disk.keepsFolder plain)
    (Disk.refusesOthers plain) valid (Folder.setSteps_under root "a" "[2]") here
  obtain ⟨n, dir', stopped, shows', complete⟩ :=
    fails Disk.withoutRoom (Disk.mayFail_withoutRoom plain (by decide +kernel))
  have early : n < (Folder.setSteps "a" "[2]").length := by
    refine Nat.lt_of_le_of_ne (Folder.le_of_stopsAfter stopped) fun all => ?_
    exact nomatch failed.symm.trans (complete.mpr all)
  exact ⟨failed, (stops n dir' _ stopped shows').1 early calls fun _ => by decide +kernel⟩

/-- A directory that is missing gives no text for a key whose file has too long a name; once it is
made, even by setting that very key in vain, the name is refused. -/
theorem get_changes_of_overlong_key :
    let root : Path := ⟨false, ["data"]⟩
    let key := String.ofList (List.replicate 251 'a')
    let d := (run ((files root).set key "x") Disk.empty).2
    isKey key = true ∧
      (run ((files root).set key "x") Disk.empty).1 = .error (.file .nameTooLong) ∧
      (run ((files root).get key) Disk.empty).1 = .ok none ∧
      (run ((files root).get key) d).1 = .error (.file .nameTooLong) := by
  intro root key d
  have plain : Disk.IsPlain root := ⟨by decide, by decide⟩
  have shows := Disk.shows_empty plain (by decide)
  have valid : isKey key = true := by
    simp only [key, isKey, String.toList_ofList]
    decide +kernel
  have size : key.utf8ByteSize = 251 := by decide +kernel
  have file : Disk.longestName < (fileName key).utf8ByteSize := by
    rw [fileName, String.utf8ByteSize_append, size]
    decide
  have draft : Disk.longestName < (draftName key).utf8ByteSize := by
    rw [draftName, String.utf8ByteSize_append]
    exact Nat.lt_add_right _ file
  obtain ⟨d', done, made⟩ := set_of_overlong plain shows valid draft "x"
  have left : d = d' := congrArg Prod.snd done
  refine ⟨valid, congrArg Prod.fst done, get_of_overlong plain shows valid file, ?_⟩
  rw [left]
  exact get_of_overlong plain made valid file

end Store
end FeatureScan
