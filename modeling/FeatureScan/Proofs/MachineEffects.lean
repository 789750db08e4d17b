import FeatureScan.Machine
import FeatureScan.Proofs.DiskFolder
import FeatureScan.Proofs.FileEffects

/-!
On a disk steps change what they may and nothing else, so its nodes are a view as hosts are meant
to have one. A path that leads nowhere upwards only passes places above its own.
-/

namespace FeatureScan

namespace Disk

variable {d d' : Disk} {place other : Place}

theorem enter_empty (place : Place) : enter place "" = place := if_pos (.inr rfl)

theorem foldl_enter_filter (parts : List String) (place : Place) :
    (parts.filter (· ≠ "")).foldl enter place = parts.foldl enter place := by
  induction parts generalizing place with
  | nil => rfl
  | cons part rest ih =>
      by_cases empty : part = ""
      · subst empty
        rw [List.filter_cons_of_neg (by simp), List.foldl_cons, enter_empty, ih]
      · rw [List.filter_cons_of_pos (by simpa using empty), List.foldl_cons, List.foldl_cons, ih]

theorem foldl_enter_names (p : Path) (place : Place) :
    p.names.foldl enter place = p.parts.foldl enter place := foldl_enter_filter p.parts place

theorem child_goal {name : String} (named : IsName name) (root : Path) :
    (root.child name).goal = root.goal ++ [name] := by
  have names : (root.child name).names = root.names ++ [name] := by
    simp [Path.names, Path.child, named.1]
  have same_start : start (root.child name) = start root := rfl
  rw [Path.goal, names, List.foldl_append, same_start]
  exact named.enter _

theorem prefix_enter {part : String} (down : part ≠ "..") (place : Place) :
    place <+: enter place part := by
  rw [enter]
  split
  · exact List.prefix_refl _
  · exact List.prefix_append place [part]

theorem prefix_foldl_enter {parts : List String} (down : ".." ∉ parts) (place : Place) :
    place <+: parts.foldl enter place := by
  induction parts generalizing place with
  | nil => exact List.prefix_refl _
  | cons part rest ih =>
      rw [List.mem_cons, not_or] at down
      exact (prefix_enter (Ne.symm down.1) place).trans (ih down.2 _)

/-- A path without a part upwards only passes places above its own. -/
theorem prefix_goal_of_passes {p : Path} (down : ".." ∉ p.names) (passes : p.Passes place) :
    place <+: p.goal := by
  obtain ⟨front, ⟨back, whole⟩, rfl⟩ := passes
  have down_back : ".." ∉ back := fun up => down (whole ▸ List.mem_append_right front up)
  rw [Path.goal, ← whole, List.foldl_append]
  exact prefix_foldl_enter down_back _

theorem not_passes_below {p : Path} (down : ".." ∉ p.names) (name : String) :
    ¬ p.Passes (p.goal ++ [name]) := by
  intro passes
  have length := (prefix_goal_of_passes down passes).length_le
  rw [List.length_append, List.length_singleton] at length
  omega

theorem foldl_of_walk {parts : List String} (leads : d.walk place parts = .ok other) :
    parts.foldl enter place = other := by
  induction parts generalizing place with
  | nil => exact Except.ok.inj leads
  | cons part rest ih =>
      rw [walk] at leads
      split at leads
      · cases leads
      split at leads
      next last =>
        cases List.isEmpty_iff.mp last
        exact Except.ok.inj leads
      next =>
        split at leads
        · exact ih leads
        · cases leads
        · cases leads

theorem foldl_of_place {p : Path} (leads : d.place p = .ok place) :
    p.parts.foldl enter (start p) = place := by
  rw [Disk.place] at leads
  split at leads
  · cases leads
  · exact foldl_of_walk leads

theorem goal_of_place {p : Path} (leads : d.place p = .ok place) : p.goal = place :=
  (foldl_enter_names p _).trans (foldl_of_place leads)

theorem goal_of_nodeAt {p : Path} {node : Node} (there : d.nodeAt p = .ok (place, node)) :
    p.goal = place := by
  rw [nodeAt] at there
  split at there
  · cases there
  next leads =>
    split at there
    · cases there
      exact goal_of_place leads
    · cases there

theorem passes_of_front {p : Path} {front : List String} (way : front <+: p.parts) :
    p.Passes (front.foldl enter (start p)) :=
  ⟨front.filter (· ≠ ""), way.filter _, foldl_enter_filter front _⟩

/-- Walking looks at the places on the way and at no other. -/
theorem walk_congr {parts : List String}
    (same : ∀ front, front <+: parts →
      d.node? (front.foldl enter place) = d'.node? (front.foldl enter place)) :
    d.walk place parts = d'.walk place parts := by
  induction parts generalizing place with
  | nil => rfl
  | cons part rest ih =>
      have here := same [part] (List.cons_prefix_cons.mpr ⟨rfl, List.nil_prefix⟩)
      have later := ih fun front way => same (part :: front) (List.cons_prefix_cons.mpr ⟨rfl, way⟩)
      rw [List.foldl_cons, List.foldl_nil] at here
      simp only [walk, ← here, later]

theorem read_congr {p : Path} (same : ∀ place, p.Passes place → d.node? place = d'.node? place) :
    d.read p = d'.read p := by
  have walks : d.walk (start p) p.parts = d'.walk (start p) p.parts :=
    walk_congr fun front way => same _ (passes_of_front way)
  have leads : d.place p = d'.place p := by
    simp only [Disk.place, walks]
  have there : d.nodeAt p = d'.nodeAt p := by
    simp only [nodeAt, leads]
    cases ends : d'.place p with
    | error fault => rfl
    | ok place =>
        have passed : p.Passes place := ⟨p.names, List.prefix_refl _, goal_of_place ends⟩
        simp only [same place passed]
  rw [read, there, ← read]

/-- Nodes in a directory are not seen outside it. -/
theorem node?_append {nodes data : List (Place × Node)} {dir place : Place}
    (inside : ∀ e ∈ data, dir <+: e.1) (outside : ¬ dir <+: place) :
    (⟨nodes ++ data⟩ : Disk).node? place = (⟨nodes⟩ : Disk).node? place := by
  have unseen : data.find? (·.1 = place) = none := by
    rw [List.find?_eq_none]
    intro e mem here
    exact outside (of_decide_eq_true here ▸ inside e mem)
  rw [node?, node?, List.find?_append, unseen, Option.or_none]

/-- Directories are made on the way only, and only where nothing is. -/
theorem made_by_createDirsFrom {parts : List String}
    (done : d.createDirsFrom place parts = .ok d') :
    d'.node? other = d.node? other ∨
      (∃ front, front <+: parts ∧ front.foldl enter place = other) ∧
        d.node? other = none ∧ d'.node? other = some .dir := by
  induction parts generalizing d place with
  | nil =>
      cases done
      exact .inl rfl
  | cons part rest ih =>
      have longer : (∃ front, front <+: rest ∧ front.foldl enter (enter place part) = other) →
          ∃ front, front <+: part :: rest ∧ front.foldl enter place = other := by
        intro passes
        obtain ⟨front, leads, ends⟩ := passes
        exact ⟨part :: front, List.cons_prefix_cons.mpr ⟨rfl, leads⟩, ends⟩
      rw [createDirsFrom] at done
      split at done
      · cases done
      split at done
      · exact (ih done).imp_right (And.imp_left longer)
      · cases done
      next nothing =>
        have free : d.node? (enter place part) ≠ some .dir := by simp [nothing]
        have put : (d.put (enter place part) .dir).node? other = _ := node?_put free other
        by_cases here : enter place part = other
        · rw [if_pos here] at put
          subst here
          cases ih done with
          | inl same =>
              refine .inr ⟨⟨[part], ?_, rfl⟩, nothing, same.trans put⟩
              exact List.cons_prefix_cons.mpr ⟨rfl, List.nil_prefix⟩
          | inr made => exact absurd (made.2.1.symm.trans put) (by simp)
        · rw [if_neg here] at put
          rw [← put]
          exact (ih done).imp_right (And.imp_left longer)

theorem turns_perform {step : FileStep} (done : d.perform step = .ok d') :
    step.Turns d.node? d'.node? := by
  intro other
  cases step with
  | createDirs p => exact made_by_createDirsFrom done
  | write p text =>
      rw [perform] at done
      split at done
      · cases done
      next place leads =>
        split at done
        · cases done
        split at done
        · cases done
        · cases done
          by_cases here : place = other
          · exact .inr ((foldl_of_place leads).trans here)
          · exact .inl (node?_put_of_ne d _ here)
  | rename source target =>
      rw [perform] at done
      split at done
      · cases done
      next old node from_there =>
        split at done
        · cases done
        next new leads =>
          split at done
          · cases done
          · cases done
            by_cases at_old : old = other
            · subst at_old
              exact .inr (.inl (goal_of_nodeAt from_there ▸ List.prefix_refl _))
            by_cases at_new : new = other
            · subst at_new
              exact .inr (.inr (goal_of_place leads ▸ List.prefix_refl _))
            · exact .inl ((node?_put_of_ne _ _ at_new).trans (node?_erase_of_ne d at_old))
  | remove p =>
      rw [perform] at done
      split at done
      · cases done
      · cases done
      next place _ _ there =>
        cases done
        by_cases here : place = other
        · exact .inr ((goal_of_nodeAt there).trans here)
        · exact .inl (node?_erase_of_ne d here)

end Disk

namespace Machine

theorem run_perform (w : Machine) (step : FileStep) :
    (FileSystem.perform step : StateM Machine _).run w =
      match w.disk.perform step with
      | .ok disk => (.ok (), { w with disk })
      | .error fault => (.error fault, w) := by
  change (match w.disk.perform step with
    | .ok disk =>
        (do modify fun v : Machine => { v with disk }; return .ok () :
          StateM Machine (Except FileFault Unit))
    | .error fault => return .error fault).run w = _
  cases w.disk.perform step <;> rfl

/-- The disk of a machine is a view of its files. -/
theorem tame : Host.Tame node? where
  read _ _ := rfl
  input _ := rfl
  now _ := rfl
  freshId _ := rfl
  perform step w := by
    rw [run_perform]
    cases done : w.disk.perform step with
    | ok disk => exact Disk.turns_perform done
    | error fault => exact fun _ => .inl rfl

/-- A machine reads from its disk. -/
theorem plain : Host.Plain node? where
  toTame := tame
  read_congr _ _ _ same := Disk.read_congr same
  input_after_read _ _ := rfl

end Machine
end FeatureScan
