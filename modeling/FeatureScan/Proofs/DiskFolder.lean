import FeatureScan.Proofs.Folder
import Mathlib.Data.List.Induction

/-!
A disk keeps each of its directories as a map from names to nodes. On a disk in good order every
node stands in a directory, so the way to a directory is made of directories, and nothing stands
below a place that is empty or a file.
-/

namespace FeatureScan
namespace Disk

variable {d : Disk} {place other : Place} {node : Node}

theorem find?_replace {nodes : List (Place × Node)} :
    (nodes.map fun e => if e.1 = place then (place, node) else e).find? (·.1 = other) =
      (nodes.find? (·.1 = other)).map fun e => if e.1 = place then (place, node) else e := by
  rw [List.find?_map]
  congr 2
  funext e
  by_cases here : e.1 = place <;> simp [here]

theorem find?_put_self (d : Disk) (place : Place) (node : Node) :
    (d.put place node).nodes.find? (·.1 = place) = some (place, node) := by
  unfold put
  split
  next there =>
    obtain ⟨e, mem, named⟩ := List.any_eq_true.mp there
    have some_node : (d.nodes.find? (·.1 = place)).isSome = true :=
      List.find?_isSome.mpr ⟨e, mem, named⟩
    obtain ⟨f, found⟩ := Option.isSome_iff_exists.mp some_node
    have here : f.1 = place := by simpa using List.find?_some found
    rw [find?_replace, found, Option.map_some, if_pos here]
  next absent =>
    have nowhere : d.nodes.find? (·.1 = place) = none :=
      List.find?_eq_none.mpr fun e mem named => absent (List.any_eq_true.mpr ⟨e, mem, named⟩)
    rw [List.find?_append, nowhere]
    simp

theorem find?_put_of_ne (d : Disk) (node : Node) (apart : place ≠ other) :
    (d.put place node).nodes.find? (·.1 = other) = d.nodes.find? (·.1 = other) := by
  unfold put
  split
  next =>
    rw [find?_replace]
    cases found : d.nodes.find? (·.1 = other) with
    | none => rfl
    | some e =>
        have there : e.1 = other := by simpa using List.find?_some found
        rw [Option.map_some, if_neg fun here => apart (here.symm.trans there)]
  next => rw [List.find?_append, List.find?_singleton, if_neg (by simpa using apart), Option.or_none]

/-- Only places where no directory stands can be changed. -/
theorem loose_of_ne_dir (free : d.node? place ≠ some .dir) : ¬ (place = [] ∨ place = [rootName]) :=
  fun fixed => free (if_pos fixed)

theorem node?_put_of_ne (d : Disk) (node : Node) (apart : place ≠ other) :
    (d.put place node).node? other = d.node? other := by
  rw [node?, node?, find?_put_of_ne d node apart]

theorem node?_put (free : d.node? place ≠ some .dir) (other : Place) :
    (d.put place node).node? other = if place = other then some node else d.node? other := by
  have loose := loose_of_ne_dir free
  by_cases same : place = other
  · subst same
    rw [if_pos rfl, node?, if_neg loose, find?_put_self]
    rfl
  · rw [if_neg same, node?_put_of_ne d node same]

theorem node?_erase_of_ne (d : Disk) (apart : place ≠ other) :
    (d.erase place).node? other = d.node? other := by
  have kept : (d.erase place).nodes.find? (·.1 = other) = d.nodes.find? (·.1 = other) := by
    rw [erase, List.find?_filter]
    congr 1
    funext e
    by_cases here : e.1 = other
    · simp [here, Ne.symm apart]
    · simp [here]
  rw [node?, node?, kept]

theorem node?_erase (free : d.node? place ≠ some .dir) (other : Place) :
    (d.erase place).node? other = if place = other then none else d.node? other := by
  have loose := loose_of_ne_dir free
  by_cases same : place = other
  · subst same
    rw [if_pos rfl, node?, if_neg loose, erase, List.find?_eq_none.mpr (by simp)]
    rfl
  · rw [if_neg same, node?_erase_of_ne d same]

/-- No place is listed twice, and every node stands in a directory. -/
structure Closed (d : Disk) : Prop where
  distinct : (d.nodes.map Prod.fst).Nodup
  parent : ∀ (place : Place) (name : String), d.node? (place ++ [name]) ≠ none →
    d.node? place = some .dir

theorem Closed.put (closed : d.Closed) {name : String} (parent : d.node? place = some .dir)
    (free : d.node? (place ++ [name]) ≠ some .dir) : (d.put (place ++ [name]) node).Closed where
  distinct := by
    unfold Disk.put
    split
    next =>
      have names : (d.nodes.map fun e => if e.1 = place ++ [name] then (place ++ [name], node) else e).map
          Prod.fst = d.nodes.map Prod.fst := by
        rw [List.map_map]
        refine List.map_congr_left fun e _ => ?_
        by_cases here : e.1 = place ++ [name] <;> simp [here]
      exact names ▸ closed.distinct
    next absent =>
      rw [List.map_append, List.map_singleton, List.nodup_append]
      refine ⟨closed.distinct, List.nodup_singleton _, ?_⟩
      intro p hp q hq same
      obtain ⟨e, mem, rfl⟩ := List.mem_map.mp hp
      exact absent (List.any_eq_true.mpr
        ⟨e, mem, decide_eq_true (same.trans (List.mem_singleton.mp hq))⟩)
  parent place' name' there := by
    rw [node?_put free] at there ⊢
    have dir : d.node? place' = some .dir := by
      by_cases same : place ++ [name] = place' ++ [name']
      · rw [← (List.append_inj' same rfl).1]
        exact parent
      · rw [if_neg same] at there
        exact closed.parent place' name' there
    rwa [if_neg fun same : place ++ [name] = place' => free (same ▸ dir)]

theorem Closed.erase (closed : d.Closed) (free : d.node? place ≠ some .dir) :
    (d.erase place).Closed where
  distinct := closed.distinct.sublist (List.filter_sublist.map Prod.fst)
  parent place' name' there := by
    rw [node?_erase free] at there ⊢
    by_cases same : place = place' ++ [name']
    · exact absurd (if_pos same) there
    · rw [if_neg same] at there
      have dir := closed.parent place' name' there
      rwa [if_neg fun same : place = place' => free (same ▸ dir)]

/-- The places above a directory are directories. -/
theorem Closed.dir_above (closed : d.Closed) {parts : List String}
    (dir : d.node? (place ++ parts) = some .dir) : d.node? place = some .dir := by
  induction parts using List.reverseRecOn with
  | nil => rwa [List.append_nil] at dir
  | append_singleton parts name ih =>
      rw [← List.append_assoc] at dir
      exact ih (closed.parent _ name (by rw [dir]; exact Option.some_ne_none _))

/-- Nothing stands below an empty place. -/
theorem Closed.nothing_below (closed : d.Closed) (nothing : d.node? place = none)
    (parts : List String) : d.node? (place ++ parts) = none := by
  induction parts using List.reverseRecOn with
  | nil => rwa [List.append_nil]
  | append_singleton parts name ih =>
      rw [← List.append_assoc]
      refine Option.eq_none_iff_forall_ne_some.mpr fun node there => ?_
      have dir := closed.parent (place ++ parts) name (by rw [there]; exact Option.some_ne_none _)
      rw [ih] at dir
      cases dir

/-- The names that a disk takes. -/
def IsName (name : String) : Prop :=
  name ≠ "" ∧ name ≠ "." ∧ name ≠ ".." ∧ name.utf8ByteSize ≤ longestName

instance : DecidablePred IsName := fun _ => inferInstanceAs (Decidable (_ ∧ _ ∧ _ ∧ _))

theorem IsName.enter {name : String} (named : IsName name) (place : Place) :
    enter place name = place ++ [name] := by
  obtain ⟨some_char, not_here, not_above, _⟩ := named
  simp [Disk.enter, some_char, not_here, not_above]

theorem IsName.fits {name : String} (named : IsName name) :
    ¬ longestName < name.utf8ByteSize :=
  Nat.not_lt.mpr named.2.2.2

/-- No file stands on the way. -/
def Open (d : Disk) (place : Place) (parts : List String) : Prop :=
  ∀ front, front <+: parts → d.node? (place ++ front) = none ∨ d.node? (place ++ front) = some .dir

theorem Open.next {part : String} {rest : List String} (way : d.Open place (part :: rest)) :
    d.Open (place ++ [part]) rest := by
  intro front hf
  rw [List.append_assoc]
  exact way (part :: front) (List.cons_prefix_cons.mpr ⟨rfl, hf⟩)

theorem walk_cons {part : String} (named : IsName part) {rest : List String} (more : rest ≠ []) :
    d.walk place (part :: rest) =
      match d.node? (place ++ [part]) with
      | some .dir => d.walk (place ++ [part]) rest
      | some _ => .error .notDirectory
      | none => .error .notFound := by
  have next : enter place part = place ++ [part] := named.enter place
  rw [walk, if_neg named.fits, if_neg (by simpa using more)]
  exact next ▸ rfl

theorem walk_name {name : String} (named : IsName name) :
    d.walk place [name] = .ok (place ++ [name]) := by
  rw [walk, if_neg named.fits, named.enter]
  rfl

/-- The way to a directory is gone to its end. -/
theorem walk_of_dir (closed : d.Closed) {parts : List String} (names : ∀ part ∈ parts, IsName part)
    (dir : d.node? (place ++ parts) = some .dir) (name : String) :
    d.walk place (parts ++ [name]) = d.walk (place ++ parts) [name] := by
  induction parts generalizing place with
  | nil => rw [List.nil_append, List.append_nil]
  | cons part rest ih =>
      obtain ⟨first, others⟩ := List.forall_mem_cons.mp names
      have more : rest ++ [name] ≠ [] := by simp
      rw [List.append_cons place] at dir ⊢
      rw [List.cons_append, walk_cons first more, closed.dir_above dir]
      exact ih others dir

theorem walk_of_missing {parts : List String} (names : ∀ part ∈ parts, IsName part)
    (here : d.node? place = some .dir) (way : d.Open place parts)
    (missing : d.node? (place ++ parts) = none) (name : String) :
    d.walk place (parts ++ [name]) = .error .notFound := by
  induction parts generalizing place with
  | nil =>
      rw [List.append_nil, here] at missing
      cases missing
  | cons part rest ih =>
      obtain ⟨first, others⟩ := List.forall_mem_cons.mp names
      have more : rest ++ [name] ≠ [] := by simp
      rw [List.append_cons place] at missing
      rw [List.cons_append, walk_cons first more]
      rcases way [part] (List.cons_prefix_cons.mpr ⟨rfl, List.nil_prefix⟩) with none | dir
      · rw [none]
      · rw [dir]
        exact ih others dir way.next missing

/-- What making the directories on an open way leads to. -/
structure Made (d d' : Disk) (target : Place) : Prop where
  closed : d'.Closed
  dir : d'.node? target = some .dir
  /-- Nothing changes off the way. -/
  frame : ∀ other, ¬ other <+: target → d'.node? other = d.node? other

theorem createDirsFrom_of_open (closed : d.Closed) {parts : List String}
    (names : ∀ part ∈ parts, IsName part) (here : d.node? place = some .dir)
    (way : d.Open place parts) :
    ∃ d', d.createDirsFrom place parts = .ok d' ∧ Made d d' (place ++ parts) := by
  induction parts generalizing d place with
  | nil => exact ⟨d, rfl, closed, by rwa [List.append_nil], fun _ _ => rfl⟩
  | cons part rest ih =>
      obtain ⟨first, others⟩ := List.forall_mem_cons.mp names
      rw [List.append_cons place, createDirsFrom, first.enter, if_neg first.fits]
      rcases way [part] (List.cons_prefix_cons.mpr ⟨rfl, List.nil_prefix⟩) with none | dir
      · rw [none]
        have free : d.node? (place ++ [part]) ≠ some .dir := by simp [none]
        have way' : (d.put (place ++ [part]) .dir).Open (place ++ [part]) rest := by
          intro front _
          rw [node?_put free, closed.nothing_below none front]
          split
          · exact .inr rfl
          · exact .inl rfl
        obtain ⟨d', made, closed', dir', frame⟩ := ih (closed.put here free) others
          (by rw [node?_put free, if_pos rfl]) way'
        refine ⟨d', made, closed', dir', fun other apart => ?_⟩
        rw [frame other apart, node?_put free, if_neg]
        rintro rfl
        exact apart (List.prefix_append _ _)
      · rw [dir]
        exact ih closed others dir way.next

/-- The place of a path that is made of names. -/
def spot (root : Path) : Place := start root ++ root.parts

/-- The path is made of names and does not lead to the working directory itself. -/
structure IsPlain (root : Path) : Prop where
  names : ∀ part ∈ root.parts, IsName part
  elsewhere : spot root ≠ []

theorem IsPlain.below_loose {root : Path} (plain : IsPlain root) (name : String) :
    ¬ (spot root ++ [name] = [] ∨ spot root ++ [name] = [rootName]) := by
  rintro (none | only)
  · exact List.append_ne_nil_of_right_ne_nil _ (by simp) none
  · have only : spot root ++ [name] = [] ++ [rootName] := only
    exact plain.elsewhere (List.append_inj' only rfl).1

/-- What the disk shows of the directory at a path, if no file stands on the way. -/
structure Shows (root : Path) (d : Disk) (dir : Folder) : Prop where
  closed : d.Closed
  way : d.Open (start root) root.parts
  here : d.node? (spot root) =
    match dir with
    | .missing => none
    | .holding _ => some .dir
  entries : ∀ name, dir.node? name = d.node? (spot root ++ [name])

theorem names_of_plain {parts : List String} (names : ∀ part ∈ parts, IsName part) :
    parts.filter (· ≠ "") = parts :=
  List.filter_eq_self.mpr fun part mem => by simpa using (names part mem).1

theorem node?_start (d : Disk) (root : Path) : d.node? (start root) = some .dir := by
  refine if_pos ?_
  unfold start
  split
  · exact .inr rfl
  · exact .inl rfl

/-- What stands in a directory does not stand on the way to it. -/
theorem spot_append_ne {root : Path} (name : String) {front : List String}
    (hf : front <+: root.parts) : spot root ++ [name] ≠ start root ++ front := by
  intro same
  have length := congrArg List.length same
  have le := hf.length_le
  simp only [spot, List.length_append, List.length_singleton] at length
  omega

section

variable {root : Path} (plain : IsPlain root) {dir : Folder} (shows : Shows root d dir)
  {name : String}
include plain

theorem child_parts : (root.child name).parts = root.parts ++ [name] := by
  change root.parts.filter (· ≠ "") ++ [name] = _
  rw [names_of_plain plain.names]

theorem child_names (some_char : name ≠ "") :
    (root.child name).names = (root.child name).parts := by
  rw [Path.names, child_parts plain, List.filter_append, names_of_plain plain.names]
  simp [some_char]

include shows

theorem Shows.place_child (name : String) :
    d.place (root.child name) =
      match dir with
      | .missing => .error .notFound
      | .holding _ => d.walk (spot root) [name] := by
  have some_part : ¬ (!(root.child name).absolute && (root.child name).parts.isEmpty) = true := by
    simp [child_parts plain]
  have here := shows.here
  rw [place, if_neg some_part, child_parts plain]
  cases dir with
  | missing =>
      exact walk_of_missing plain.names (node?_start d root) shows.way here name
  | holding nodes => exact walk_of_dir shows.closed plain.names here name

theorem Shows.nodeAt_child (named : IsName name) :
    d.nodeAt (root.child name) =
      match dir.node? name with
      | none => .error .notFound
      | some node => .ok (spot root ++ [name], node) := by
  rw [nodeAt, shows.place_child plain name, walk_name named]
  cases dir with
  | missing => rfl
  | holding nodes =>
      rw [shows.entries name]
      dsimp only
      cases d.node? (spot root ++ [name]) <;> rfl

theorem Shows.read_child (named : IsName name) : d.read (root.child name) = dir.read name := by
  rw [Disk.read, shows.nodeAt_child plain named, Folder.read]
  rcases dir.node? name with _ | _ | _ | _ <;> rfl

/-- A name that is too long is refused where the directory exists. -/
theorem Shows.nodeAt_overlong (long : longestName < name.utf8ByteSize) :
    d.nodeAt (root.child name) =
      match dir with
      | .missing => .error .notFound
      | .holding _ => .error .nameTooLong := by
  rw [nodeAt, shows.place_child plain name, walk, if_pos long]
  cases dir <;> rfl

theorem Shows.read_overlong (long : longestName < name.utf8ByteSize) :
    d.read (root.child name) =
      match dir with
      | .missing => .error .notFound
      | .holding _ => .error .nameTooLong := by
  rw [Disk.read, shows.nodeAt_overlong plain long]
  cases dir <;> rfl

theorem Shows.remove_overlong (long : longestName < name.utf8ByteSize) :
    d.perform (.remove (root.child name)) =
      match dir with
      | .missing => .error .notFound
      | .holding _ => .error .nameTooLong := by
  rw [Disk.perform, shows.nodeAt_overlong plain long]
  cases dir <;> rfl

theorem Shows.write_overlong (long : longestName < name.utf8ByteSize) (text : String) :
    d.perform (.write (root.child name) text) =
      match dir with
      | .missing => .error .notFound
      | .holding _ => .error .nameTooLong := by
  have some_char : name ≠ "" := by
    rintro rfl
    exact absurd long (by decide)
  have parts : { root.child name with parts := (root.child name).names } = root.child name := by
    rw [child_names plain some_char]
  rw [Disk.perform, parts, shows.place_child plain name, walk, if_pos long]
  cases dir <;> rfl

theorem Shows.nodeAt_root :
    d.nodeAt root =
      match d.node? (spot root) with
      | none => .error .notFound
      | some node => .ok (spot root, node) := by
  have somewhere : ¬ (!root.absolute && root.parts.isEmpty) = true := by
    intro nowhere
    obtain ⟨relative, no_part⟩ := Bool.and_eq_true_iff.mp nowhere
    refine plain.elsewhere ?_
    rw [spot, start, if_neg (by simpa using relative), List.isEmpty_iff.mp no_part]
    rfl
  rw [nodeAt, place, if_neg somewhere]
  rcases List.eq_nil_or_concat root.parts with none | ⟨front, last, whole⟩
  · rw [spot, none, walk, List.append_nil]
    dsimp only
    cases d.node? (start root) <;> rfl
  · rw [List.concat_eq_append] at whole
    have names := plain.names
    rw [whole] at names
    obtain ⟨fronts, last_named⟩ := List.forall_mem_append.mp names
    have way := shows.way
    rw [whole] at way
    rw [spot, whole, ← List.append_assoc]
    rcases way front (List.prefix_append front [last]) with missing | there
    · have way_front : d.Open (start root) front :=
        fun part hp => way part (hp.trans (List.prefix_append front [last]))
      rw [walk_of_missing fronts (node?_start d root) way_front missing,
        shows.closed.nothing_below missing]
    · rw [walk_of_dir shows.closed fronts there last,
        walk_name (List.forall_mem_singleton.mp last_named)]
      dsimp only
      cases d.node? (start root ++ front ++ [last]) <;> rfl

end

section

variable {root : Path} {dir : Folder} (shows : Shows root d dir) {name : String}
include shows

theorem Shows.free (free : dir.node? name ≠ some .dir) :
    d.node? (spot root ++ [name]) ≠ some .dir := shows.entries name ▸ free

theorem Shows.put {nodes : Dictionary Node} (holding : dir = .holding nodes)
    (free : dir.node? name ≠ some .dir) (node : Node) :
    Shows root (d.put (spot root ++ [name]) node) (dir.put name node) := by
  have unused := shows.free free
  have dir_here : d.node? (spot root) = some .dir := by
    rw [shows.here, holding]
  refine ⟨shows.closed.put dir_here unused, fun front hf => ?_, ?_, fun other => ?_⟩
  · rw [node?_put unused, if_neg (spot_append_ne name hf)]
    exact shows.way front hf
  · exact (node?_put unused _).trans
      ((if_neg (spot_append_ne name (List.prefix_refl _))).trans dir_here)
  · rw [Folder.node?_put, node?_put unused, shows.entries other]
    simp

theorem Shows.erase (free : dir.node? name ≠ some .dir) :
    Shows root (d.erase (spot root ++ [name])) (dir.erase name) := by
  have unused := shows.free free
  refine ⟨shows.closed.erase unused, fun front hf => ?_, ?_, fun other => ?_⟩
  · rw [node?_erase unused, if_neg (spot_append_ne name hf)]
    exact shows.way front hf
  · refine (node?_erase unused _).trans
      ((if_neg (spot_append_ne name (List.prefix_refl _))).trans (shows.here.trans ?_))
    cases dir <;> rfl
  · rw [Folder.node?_erase, node?_erase unused, shows.entries other]
    simp

theorem Shows.createDirs (plain : IsPlain root) :
    ∃ d', d.perform (.createDirs root) = .ok d' ∧ Shows root d' dir.create := by
  obtain ⟨d', made, closed, there, frame⟩ := createDirsFrom_of_open shows.closed plain.names
    (node?_start d root) shows.way
  refine ⟨d', ?_, closed, fun front hf => ?_, there, fun other => ?_⟩
  · rw [Disk.perform, Path.names, names_of_plain plain.names, made]
  · obtain ⟨back, whole⟩ := hf
    rw [← whole, ← List.append_assoc] at there
    exact .inr (closed.dir_above there)
  · rw [Folder.node?_create, shows.entries other]
    refine (frame _ fun inside => ?_).symm
    have length := inside.length_le
    simp only [spot, List.length_append, List.length_singleton] at length
    omega

end

/-- The step does on the disk what it does on the map. -/
def Follows (root : Path) (d : Disk) (step : FolderStep) : Except FileFault Folder → Prop
  | .ok dir' => ∃ d', d.perform (step.under root) = .ok d' ∧ Shows root d' dir'
  | .error fault => d.perform (step.under root) = .error fault

section

variable {root : Path} (plain : IsPlain root) {dir : Folder} (shows : Shows root d dir)
include plain shows

theorem Shows.write_child {name : String} (named : IsName name) (text : String) :
    d.perform (.write (root.child name) text) =
      match dir with
      | .missing => .error .notFound
      | .holding _ =>
          if dir.node? name = some .dir then .error .isDirectory
          else .ok (d.put (spot root ++ [name]) (.text text)) := by
  have parts : { root.child name with parts := (root.child name).names } = root.child name := by
    rw [child_names plain named.1]
  have file : (root.child name).asksForDirectory = false := by
    rw [Path.asksForDirectory, child_parts plain, List.getLast?_concat]
    simpa using named.1
  rw [Disk.perform, parts, shows.place_child plain name, walk_name named, file, shows.entries name]
  cases dir with
  | missing => rfl
  | holding nodes =>
      dsimp only
      rcases d.node? (spot root ++ [name]) with _ | _ | _ | _ <;> rfl

theorem Shows.remove_child {name : String} (named : IsName name) :
    d.perform (.remove (root.child name)) =
      match dir.node? name with
      | none => .error .notFound
      | some .dir => .error .isDirectory
      | some _ => .ok (d.erase (spot root ++ [name])) := by
  rw [Disk.perform, shows.nodeAt_child plain named]
  rcases dir.node? name with _ | _ | _ | _ <;> rfl

theorem Shows.rename_child {source target : String} (source_named : IsName source)
    (target_named : IsName target) :
    d.perform (.rename (root.child source) (root.child target)) =
      match dir.node? source with
      | none => .error .notFound
      | some node =>
          if dir.node? target = some .dir then .error .isDirectory
          else .ok ((d.erase (spot root ++ [source])).put (spot root ++ [target]) node) := by
  rw [Disk.perform, shows.nodeAt_child plain source_named, shows.place_child plain target,
    walk_name target_named, shows.entries target]
  cases dir with
  | missing => rfl
  | holding nodes =>
      cases (Folder.holding nodes).node? source with
      | none => rfl
      | some node =>
          dsimp only
          rcases d.node? (spot root ++ [target]) with _ | _ | _ | _ <;> rfl

theorem Shows.follows_write {name : String} (named : IsName name) (text : String) :
    Follows root d (.write name text) (dir.perform (.write name text)) := by
  have performed := shows.write_child plain named text
  cases dir with
  | missing => exact performed
  | holding nodes =>
      rw [Folder.perform]
      by_cases blocked : (Folder.holding nodes).node? name = some .dir
      · rw [if_pos blocked]
        exact performed.trans (if_pos blocked)
      · rw [if_neg blocked]
        exact ⟨_, performed.trans (if_neg blocked), shows.put rfl blocked _⟩

theorem Shows.follows_remove {name : String} (named : IsName name) :
    Follows root d (.remove name) (dir.perform (.remove name)) := by
  have performed := shows.remove_child plain named
  rw [Folder.perform]
  cases there : dir.node? name with
  | none => exact performed.trans (by rw [there])
  | some node =>
      cases node with
      | dir => exact performed.trans (by rw [there])
      | text _ | bytes _ =>
          refine ⟨_, performed.trans (by rw [there]), shows.erase ?_⟩
          simp [there]

theorem Shows.follows_rename {source target : String} (source_named : IsName source)
    (target_named : IsName target) (still : dir.node? source ≠ some .dir) :
    Follows root d (.rename source target) (dir.perform (.rename source target)) := by
  have performed := shows.rename_child plain source_named target_named
  rw [Folder.perform]
  cases there : dir.node? source with
  | none => exact performed.trans (by rw [there])
  | some node =>
      rw [there] at performed
      dsimp only at performed ⊢
      by_cases blocked : dir.node? target = some .dir
      · rw [if_pos blocked]
        exact performed.trans (if_pos blocked)
      · rw [if_neg blocked]
        have gone := shows.erase still
        have unblocked : (dir.erase source).node? target ≠ some .dir := by
          rw [Folder.node?_erase]
          split
          · simp
          · exact blocked
        refine ⟨_, performed.trans (if_neg blocked), ?_⟩
        cases dir with
        | missing => cases there
        | holding nodes => exact gone.put rfl unblocked node

/-- Every step does on the disk what it does on the map. -/
theorem Shows.follows {step : FolderStep} (names : ∀ name ∈ step.names, IsName name)
    (still : step.movesDir dir = false) : Follows root d step (dir.perform step) := by
  cases step with
  | create => exact shows.createDirs plain
  | write name text => exact shows.follows_write plain (names name List.mem_cons_self) text
  | rename source target =>
      exact shows.follows_rename plain (names source List.mem_cons_self)
        (names target (List.mem_cons_of_mem _ List.mem_cons_self)) (of_decide_eq_false still)
  | remove name => exact shows.follows_remove plain (names name List.mem_cons_self)

end

theorem nameIn?_eq_some {above place : Place} {name : String} :
    nameIn? above place = some name ↔ place = above ++ [name] := by
  unfold nameIn?
  constructor
  · intro h
    split at h
    next inside =>
      obtain ⟨front, whole⟩ := List.getLast?_eq_some_iff.mp h
      rw [whole, List.dropLast_concat] at inside
      rw [whole, inside]
    next => cases h
  · rintro rfl
    rw [List.dropLast_concat, if_pos rfl, List.getLast?_concat]

theorem mem_places (loose : ¬ (place = [] ∨ place = [rootName])) :
    place ∈ d.nodes.map Prod.fst ↔ (d.node? place).isSome = true := by
  rw [node?, if_neg loose, Option.isSome_map, List.find?_isSome, List.mem_map]
  simp

theorem Shows.names_perm {root : Path} (plain : IsPlain root) {nodes : Dictionary Node}
    (shows : Shows root d (.holding nodes)) :
    (d.nodes.filterMap fun e => nameIn? (spot root) e.1).Perm nodes.keys := by
  have places : d.nodes.filterMap (fun e => nameIn? (spot root) e.1) =
      (d.nodes.map Prod.fst).filterMap (nameIn? (spot root)) := by
    rw [List.filterMap_map]
    rfl
  have distinct : ((d.nodes.map Prod.fst).filterMap (nameIn? (spot root))).Nodup := by
    refine shows.closed.distinct.filterMap fun p q name hp hq => ?_
    rw [nameIn?_eq_some.mp hp, nameIn?_eq_some.mp hq]
  rw [places]
  refine (List.perm_ext_iff_of_nodup distinct nodes.keys_nodup).mpr fun name => ?_
  have entry : nodes.get? name = d.node? (spot root ++ [name]) := shows.entries name
  rw [Dictionary.mem_keys, entry, ← mem_places (plain.below_loose name)]
  simp only [List.mem_filterMap, nameIn?_eq_some, exists_eq_right]

theorem Shows.list_root {root : Path} (plain : IsPlain root) {dir : Folder}
    (shows : Shows root d dir) :
    d.list root =
      match dir with
      | .missing => .error .notFound
      | .holding _ => .ok (d.nodes.filterMap fun e => nameIn? (spot root) e.1) := by
  rw [Disk.list, shows.nodeAt_root plain, shows.here]
  cases dir <;> rfl

/-- An empty disk shows that a directory is missing, unless it is the root. -/
theorem shows_empty {root : Path} (plain : IsPlain root) (below : spot root ≠ [rootName]) :
    Shows root empty .missing where
  closed := by
    refine ⟨List.nodup_nil, fun place name there => ?_⟩
    unfold node? at there
    split at there
    next fixed =>
      rcases fixed with none | only
      · exact absurd none (List.append_ne_nil_of_right_ne_nil _ (by simp))
      · have only : place ++ [name] = [] ++ [rootName] := only
        rw [(List.append_inj' only rfl).1]
        rfl
    next => exact absurd rfl there
  way front _ := by
    unfold node?
    split
    · exact .inr rfl
    · exact .inl rfl
  here := if_neg (not_or.mpr ⟨plain.elsewhere, below⟩)
  entries name := (if_neg (plain.below_loose name)).symm

theorem run_perform (d : Disk) (step : FileStep) :
    (FileSystem.perform step : StateM Disk _).run d =
      match d.perform step with
      | .ok d' => (.ok (), d')
      | .error fault => (.error fault, d) := by
  change (match d.perform step with
    | .ok d => (do set d; return .ok () : StateM Disk (Except FileFault Unit))
    | .error fault => return .error fault).run d = _
  cases d.perform step <;> rfl

/-- A disk keeps the directory at every path that is made of names. -/
theorem keepsFolder {root : Path} (plain : IsPlain root) :
    KeepsFolder root IsName (Shows root) where
  read dir name named d shows :=
    ⟨d, congrArg (fun answer => (answer, d)) (shows.read_child plain named), shows⟩
  list_missing d shows :=
    ⟨d, congrArg (fun answer => (answer, d)) (shows.list_root plain), shows⟩
  list nodes d shows :=
    ⟨_, shows.names_perm plain, d,
      congrArg (fun answer => (answer, d)) (shows.list_root plain), shows⟩
  perform dir step names still d shows := by
    have follows := shows.follows plain names still
    rw [run_perform]
    cases result : dir.perform step with
    | ok dir' =>
        rw [result] at follows
        obtain ⟨d', done, shows'⟩ := follows
        exact ⟨d', by rw [done]; rfl, shows'⟩
    | error fault =>
        rw [result] at follows
        have refused : d.perform (step.under root) = .error fault := follows
        exact ⟨d, by rw [refused]; rfl, shows⟩

end Disk
end FeatureScan
