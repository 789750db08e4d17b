import FeatureScan.FileSystem

/-!
A file system as a value: a map from places to files and directories. A place is the list
of names from the working directory, which always is a directory; absolute places begin
with a name that no relative one has.
-/

namespace FeatureScan

abbrev Place := List String

inductive Node where
  | dir
  | text (content : String)
  /-- A file whose bytes are no text. -/
  | bytes (content : List UInt8)
  deriving Repr, DecidableEq

structure Disk where
  nodes : List (Place × Node)
  deriving Repr, DecidableEq

namespace Disk

def empty : Disk := ⟨[]⟩

/-- The name that absolute places begin with. -/
def rootName : String := "/"

def node? (d : Disk) (place : Place) : Option Node :=
  if place = [] ∨ place = [rootName] then some .dir
  else (d.nodes.find? (·.1 = place)).map Prod.snd

def put (d : Disk) (place : Place) (node : Node) : Disk :=
  if d.nodes.any (·.1 = place) then
    ⟨d.nodes.map fun e => if e.1 = place then (place, node) else e⟩
  else
    ⟨d.nodes ++ [(place, node)]⟩

def erase (d : Disk) (place : Place) : Disk := ⟨d.nodes.filter (·.1 ≠ place)⟩

/-- The place one part further. -/
def enter (place : Place) (part : String) : Place :=
  if part = "." ∨ part = "" then place
  else if part = ".." then place.dropLast
  else place ++ [part]

/-- The greatest number of bytes in a name. -/
def longestName : Nat := 255

/-- The place that a path leads to. All parts but the last must lead to directories. -/
def walk (d : Disk) : Place → List String → Except FileFault Place
  | place, [] => .ok place
  | place, part :: rest =>
      if longestName < part.utf8ByteSize then .error .nameTooLong
      else if rest.isEmpty then .ok (enter place part)
      else
        match d.node? (enter place part) with
        | some .dir => walk d (enter place part) rest
        | some _ => .error .notDirectory
        | none => .error .notFound

def start (p : Path) : Place := if p.absolute then [rootName] else []

/-- The place of a path. A relative path without parts has none. -/
def place (d : Disk) (p : Path) : Except FileFault Place :=
  if !p.absolute && p.parts.isEmpty then .error .notFound else d.walk (start p) p.parts

def nodeAt (d : Disk) (p : Path) : Except FileFault (Place × Node) :=
  match d.place p with
  | .error fault => .error fault
  | .ok place =>
      match d.node? place with
      | some node => .ok (place, node)
      | none => .error .notFound

def read (d : Disk) (p : Path) : Except FileFault String :=
  match d.nodeAt p with
  | .error fault => .error fault
  | .ok (_, .dir) => .error .isDirectory
  | .ok (_, .bytes _) => .error .notUtf8
  | .ok (_, .text s) => .ok s

/-- The name of a place right below another one. -/
def nameIn? (dir place : Place) : Option String :=
  if place.dropLast = dir then place.getLast? else none

def list (d : Disk) (p : Path) : Except FileFault (List String) :=
  match d.nodeAt p with
  | .error fault => .error fault
  | .ok (place, .dir) => .ok (d.nodes.filterMap fun e => nameIn? place e.1)
  | .ok _ => .error .notDirectory

/-- Makes the directories that are missing on the way to a place. -/
def createDirsFrom (d : Disk) : Place → List String → Except FileFault Disk
  | _, [] => .ok d
  | place, part :: rest =>
      let next := enter place part
      if longestName < part.utf8ByteSize then .error .nameTooLong
      else
        match d.node? next with
        | some .dir => createDirsFrom d next rest
        | some _ => .error (if rest.isEmpty then .alreadyExists else .notDirectory)
        | none => createDirsFrom (d.put next .dir) next rest

/-- The disk after a step, or why the step fails. A step that fails changes nothing. -/
def perform (d : Disk) : FileStep → Except FileFault Disk
  | .createDirs p => d.createDirsFrom (start p) p.names
  | .write p text =>
      match d.place { p with parts := p.names } with
      | .error fault => .error fault
      | .ok place =>
          if p.asksForDirectory then .error .isDirectory
          else
            match d.node? place with
            | some .dir => .error .isDirectory
            | _ => .ok (d.put place (.text text))
  | .rename source target =>
      match d.nodeAt source with
      | .error fault => .error fault
      | .ok (old, node) =>
          match d.place target with
          | .error fault => .error fault
          | .ok new =>
              match d.node? new with
              | some .dir => .error .isDirectory
              | _ => .ok ((d.erase old).put new node)
  | .remove p =>
      match d.nodeAt p with
      | .error fault => .error fault
      | .ok (_, .dir) => .error .isDirectory
      | .ok (place, _) => .ok (d.erase place)

/-- The files with their places. -/
def files (d : Disk) : List (Place × Node) := d.nodes.filter (·.2 ≠ .dir)

end Disk

/-- A file system that is a disk as the state. -/
instance : FileSystem (StateM Disk) where
  read p := do return (← get).read p
  list p := do return (← get).list p
  perform step := do
    match (← get).perform step with
    | .ok d => set d; return .ok ()
    | .error fault => return .error fault

end FeatureScan
