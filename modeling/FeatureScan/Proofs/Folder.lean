import FeatureScan.Dictionary
import FeatureScan.Disk
import Mathlib.Data.List.Nodup

/-!
A directory of a file system as a map from names to what stands under them, and the steps that
change it. A file system keeps the map if each of its operations does to the directory what is
written here; what else there is in the file system does not matter.
-/

namespace FeatureScan

namespace Dictionary

variable {α : Type}

theorem lookupEntry_isSome {key : String} {entries : List (String × α)} :
    (lookupEntry key entries).isSome = true ↔ key ∈ entries.map Prod.fst := by
  induction entries with
  | nil => simp [lookupEntry]
  | cons e rest ih =>
      obtain ⟨k, v⟩ := e
      rw [lookupEntry, List.map_cons, List.mem_cons, ← ih]
      split
      next same => simp [same]
      next other => simp [Ne.symm other]

theorem mem_keys {d : Dictionary α} {key : String} : key ∈ d.keys ↔ (d.get? key).isSome = true :=
  lookupEntry_isSome.symm

theorem keys_sorted (d : Dictionary α) : d.keys.Pairwise (· < ·) := List.pairwise_map.mpr d.ordered

theorem keys_nodup (d : Dictionary α) : d.keys.Nodup := by
  refine d.keys_sorted.imp fun {a b} lt => ?_
  rintro rfl
  exact String.lt_irrefl a lt

end Dictionary

/-- What a directory shows of itself. -/
inductive Folder where
  | missing
  | holding (nodes : Dictionary Node)

namespace Folder

def node? : Folder → String → Option Node
  | .missing, _ => none
  | .holding nodes, name => nodes.get? name

/-- The nodes of the directory once it is made. -/
def nodes : Folder → Dictionary Node
  | .missing => .empty
  | .holding nodes => nodes

/-- Makes the directory if it is missing. -/
def create (dir : Folder) : Folder := .holding dir.nodes

def put (dir : Folder) (name : String) (node : Node) : Folder :=
  .holding (dir.nodes.insert name node)

def erase : Folder → String → Folder
  | .missing, _ => .missing
  | .holding nodes, name => .holding (nodes.erase name)

def names (dir : Folder) : List String := dir.nodes.keys

theorem get?_nodes (dir : Folder) (name : String) : dir.nodes.get? name = dir.node? name := by
  cases dir <;> rfl

@[simp] theorem node?_create (dir : Folder) (name : String) :
    dir.create.node? name = dir.node? name := dir.get?_nodes name

theorem node?_put (dir : Folder) (name other : String) (node : Node) :
    (dir.put name node).node? other = if name = other then some node else dir.node? other := by
  rw [← get?_nodes dir]
  exact Dictionary.get?_insert dir.nodes name other node

theorem node?_erase (dir : Folder) (name other : String) :
    (dir.erase name).node? other = if name = other then none else dir.node? other := by
  cases dir with
  | missing => simp [erase, node?]
  | holding nodes => exact nodes.get?_erase name other

@[simp] theorem node?_put_self (dir : Folder) (name : String) (node : Node) :
    (dir.put name node).node? name = some node := by
  rw [node?_put, if_pos rfl]

theorem node?_put_of_ne {name other : String} (dir : Folder) (node : Node) (h : name ≠ other) :
    (dir.put name node).node? other = dir.node? other := by
  rw [node?_put, if_neg h]

theorem node?_erase_of_ne {name other : String} (dir : Folder) (h : name ≠ other) :
    (dir.erase name).node? other = dir.node? other := by
  rw [node?_erase, if_neg h]

theorem mem_names {dir : Folder} {name : String} :
    name ∈ dir.names ↔ (dir.node? name).isSome = true := by
  rw [names, Dictionary.mem_keys, get?_nodes]

theorem names_nodup (dir : Folder) : dir.names.Nodup := dir.nodes.keys_nodup

end Folder

/-- The steps of a file system inside one directory. -/
inductive FolderStep where
  | create
  | write (name text : String)
  | rename (source target : String)
  | remove (name : String)
  deriving Repr, DecidableEq

namespace FolderStep

/-- The step for the directory at a path. -/
def under (root : Path) : FolderStep → FileStep
  | .create => .createDirs root
  | .write name text => .write (root.child name) text
  | .rename source target => .rename (root.child source) (root.child target)
  | .remove name => .remove (root.child name)

def names : FolderStep → List String
  | .create => []
  | .write name _ | .remove name => [name]
  | .rename source target => [source, target]

/-- Whether the step moves a directory. -/
def movesDir (dir : Folder) : FolderStep → Bool
  | .rename source _ => dir.node? source = some .dir
  | _ => false

end FolderStep

namespace Folder

/-- The directory after a step, or why the step is refused. -/
def perform (dir : Folder) : FolderStep → Except FileFault Folder
  | .create => .ok dir.create
  | .write name text =>
      match dir with
      | .missing => .error .notFound
      | .holding _ =>
          if dir.node? name = some .dir then .error .isDirectory
          else .ok (dir.put name (.text text))
  | .rename source target =>
      match dir.node? source with
      | none => .error .notFound
      | some node =>
          if dir.node? target = some .dir then .error .isDirectory
          else .ok ((dir.erase source).put target node)
  | .remove name =>
      match dir.node? name with
      | none => .error .notFound
      | some .dir => .error .isDirectory
      | some _ => .ok (dir.erase name)

/-- The text that a file holds, or why there is none to be read. -/
def read (dir : Folder) (name : String) : Except FileFault String :=
  match dir.node? name with
  | none => .error .notFound
  | some .dir => .error .isDirectory
  | some (.bytes _) => .error .notUtf8
  | some (.text s) => .ok s

/-- The answer to a step with this result and the directory that it leaves. A step that is
refused changes nothing. -/
def settle (dir : Folder) : Except FileFault Folder → Except FileFault Unit × Folder
  | .ok dir' => (.ok (), dir')
  | .error fault => (.error fault, dir)

end Folder

section

variable {σ α β : Type} {Shows : σ → Folder → Prop}

/-- In a state that shows the directory `dir` the operation answers `a` and leaves a state that
shows `dir'`. -/
def Leads (Shows : σ → Folder → Prop) (x : StateM σ α) (dir : Folder) (a : α) (dir' : Folder) :
    Prop :=
  ∀ st, Shows st dir → ∃ st', x.run st = (a, st') ∧ Shows st' dir'

theorem leads_pure (dir : Folder) (a : α) : Leads Shows (pure a) dir a dir :=
  fun st shows => ⟨st, rfl, shows⟩

theorem Leads.bind {x : StateM σ α} {f : α → StateM σ β} {dir dir' dir'' : Folder} {a : α} {b : β}
    (first : Leads Shows x dir a dir') (second : Leads Shows (f a) dir' b dir'') :
    Leads Shows (x >>= f) dir b dir'' := by
  intro st shows
  obtain ⟨st', hx, shows'⟩ := first st shows
  obtain ⟨st'', hf, shows''⟩ := second st' shows'
  refine ⟨st'', ?_, shows''⟩
  rw [StateT.run_bind, hx]
  exact hf

/-- The file system keeps the directory at `root` as a map: on the states that show it, the
operations with names that the file system takes act as those of the map. -/
structure KeepsFolder [FileSystem (StateM σ)] (root : Path) (Names : String → Prop)
    (Shows : σ → Folder → Prop) : Prop where
  read : ∀ (dir : Folder) (name : String), Names name →
    Leads Shows (FileSystem.read (root.child name)) dir (dir.read name) dir
  list_missing : Leads Shows (FileSystem.list root) .missing (.error .notFound) .missing
  /-- The names come in any order. -/
  list : ∀ nodes st, Shows st (.holding nodes) → ∃ names, names.Perm nodes.keys ∧
    ∃ st', (FileSystem.list root : StateM σ _).run st = (.ok names, st') ∧ Shows st' (.holding nodes)
  perform : ∀ (dir : Folder) (step : FolderStep), (∀ name ∈ step.names, Names name) →
    step.movesDir dir = false →
    Leads Shows (FileSystem.perform (step.under root)) dir (dir.settle (dir.perform step)).1
      (dir.settle (dir.perform step)).2

end

end FeatureScan
