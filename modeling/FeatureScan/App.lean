import FeatureScan.AppFault
import FeatureScan.Detection
import FeatureScan.Kept
import FeatureScan.FileSystem
import FeatureScan.Signatures
import FeatureScan.Dataset.Builtin
import FeatureScan.Dataset.Reader

/-!
The services of the program: analyzing snippets with a dataset and keeping what was
analyzed. Ids and times are given by the caller.
-/

namespace FeatureScan

/-- What is told to a user who gives nothing to analyze. -/
def emptyInputMessage : String := "Please enter some code to analyze"

/-- Refuses a snippet of blanks only; any other is kept as it is. -/
def requireCode (code : String) : Except AppFault String :=
  if Text.allBlank code then .error (.invalidInput emptyInputMessage) else .ok code

/-- A feature of the built-in catalog as it is listed. -/
structure Listed where
  id : String
  category : Category
  support : Support
  deriving Repr, DecidableEq

/-- A dataset and a store to work with. -/
structure App (m : Type → Type) where
  dataset : Dataset
  store : Store m

namespace App

variable {m : Type → Type} [Monad m]

def analyze (app : App m) (code : String) : Except AppFault Analysis := do
  let code ← requireCode code
  return Catalog.builtin.analyze code app.dataset

/-- Does something with the store; its fault becomes one of the program. -/
def stored {α : Type} (act : ExceptT StoreFault m α) : ExceptT AppFault m α :=
  act.adapt .store

/-- Records an analysis. A store that fails loses the record and nothing else. -/
def record (app : App m) (id : String) (time : Instant) (code : String) (results : Analysis) :
    m (Option HistoryItem) := do
  let item := HistoryItem.new id time code results
  match ← (History.record app.store item).run with
  | .ok _ => return some item
  | .error _ => return none

def addBookmark (app : App m) (id : String) (time : Instant) (name code : String) :
    ExceptT AppFault m Bookmark := do
  match app.analyze code with
  | .error fault => throw fault
  | .ok results =>
      let bookmark := Bookmark.new id time name code (some results)
      let _ ← stored (Bookmarks.save app.store bookmark)
      return bookmark

/-- Removes a bookmark that exists and gives those that remain. -/
def removeBookmark (app : App m) (id : String) : ExceptT AppFault m (List Bookmark) := do
  match ← stored (Bookmarks.find? app.store id) with
  | none => throw (.notFound ("bookmark " ++ id))
  | some _ => stored (Bookmarks.remove app.store id)

def historyEntry (app : App m) (id : String) : ExceptT AppFault m HistoryItem := do
  match ← stored (History.find? app.store id) with
  | none => throw (.notFound ("history entry " ++ id))
  | some item => return item

/-- The features of the built-in catalog in scan order, all or those of one category. -/
def features (app : App m) (category : Option Category) : List Listed :=
  (Catalog.builtin.signatures.filter fun s => category.all (· == s.category)).map fun s =>
    ⟨s.id, s.category, app.dataset.supportOf s.id⟩

end App

section Files

variable {m : Type → Type} [Monad m] [FileSystem m]

/-- The snippet in a file. -/
def readCode (file : Path) : ExceptT AppFault m String := do
  match ← FileSystem.read (m := m) file with
  | .error fault => throw (.file fault)
  | .ok code =>
      match requireCode code with
      | .error fault => throw fault
      | .ok code => return code

/-- The dataset in a file, or the built-in one. -/
def loadDataset (file : Option Path) : ExceptT AppFault m Dataset := do
  match file with
  | none => return Dataset.builtin
  | some file =>
      match ← FileSystem.read (m := m) file with
      | .error fault => throw (.scan (.file fault))
      | .ok text =>
          match Dataset.read text with
          | .error fault => throw (.scan fault)
          | .ok d => return d

end Files
end FeatureScan
