import FeatureScan.FileSystem
import FeatureScan.Store

/-!
A store in a directory, with one file for each key. A text is written to a file beside
the one of its key and then given the name of that file, so a reader sees the old text or
the new one and never a part.
-/

namespace FeatureScan
namespace Store

/-- What the names of the files of a store end in. -/
def fileEnding : String := ".json"

def fileOf (root : Path) (key : String) : Path := root.child (key ++ fileEnding)

/-- The file that a text is first written to. -/
def draftOf (root : Path) (key : String) : Path := root.child (key ++ fileEnding ++ ".tmp")

/-- The key whose file has this name. -/
def keyOfFile? (name : String) : Option String :=
  let stem := String.ofList (name.toList.take (name.length - fileEnding.length))
  if stem ++ fileEnding = name ∧ isKey stem then some stem else none

/-- The steps that store a text. -/
def setSteps (root : Path) (key text : String) : List FileStep :=
  [.createDirs root, .write (draftOf root key) text, .rename (draftOf root key) (fileOf root key)]

variable {m : Type → Type} [Monad m] [FileSystem m]

/-- The store in the directory `root`, which is made when something is stored. -/
def files (root : Path) : Store m where
  get key := do
    checkKey key
    match ← FileSystem.read (m := m) (fileOf root key) with
    | .ok text => return some text
    | .error .notFound => return none
    | .error fault => throw (.file fault)
  set key text := do
    checkKey key
    match ← FileSystem.performAll (m := m) (setSteps root key text) with
    | .ok () => return ()
    | .error fault => throw (.file fault)
  remove key := do
    checkKey key
    match ← FileSystem.perform (m := m) (.remove (fileOf root key)) with
    | .ok () | .error .notFound => return ()
    | .error fault => throw (.file fault)
  keys := do
    match ← FileSystem.list (m := m) root with
    | .ok names => return (names.filterMap keyOfFile?).mergeSort fun a b => decide (a ≤ b)
    | .error .notFound => return []
    | .error fault => throw (.file fault)

end Store
end FeatureScan
