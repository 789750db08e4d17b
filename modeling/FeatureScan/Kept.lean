import FeatureScan.Report.Export
import FeatureScan.Store

/-!
What the program keeps between runs: recent analyses and named snippets. Each kind is one
document in the store, a list with the newest entry first and at most one entry of each
id. A document that cannot be read counts as an empty list.
-/

namespace FeatureScan

/-- A kind of entry that is kept in a document of its own. -/
class Kept (α : Type) where
  key : String
  shape : Json.Shape
  toJson : α → Json
  ofJson? : Json → Option α
  id : α → String

/-- Characters of a snippet that a preview shows. -/
def previewLength : Nat := 100

def preview (code : String) : String :=
  let chars := code.toList
  if previewLength < chars.length then
    String.ofList (chars.take previewLength) ++ "..."
  else code

structure HistoryItem where
  id : String
  code : String
  results : Analysis
  time : Instant
  preview : String
  deriving Repr, DecidableEq

/-- A named snippet, with or without its analysis. -/
structure Bookmark where
  id : String
  name : String
  code : String
  results : Option Analysis
  time : Instant
  preview : String
  deriving Repr, DecidableEq

namespace HistoryItem

/-- The item of an analysis at the given time. -/
def new (id : String) (time : Instant) (code : String) (results : Analysis) : HistoryItem :=
  ⟨id, code, results, time, FeatureScan.preview code⟩

def shape : Json.Shape :=
  .record "HistoryItem"
    [("id", .text), ("code", .text), ("results", Analysis.shape), ("timestamp", Instant.shape),
      ("preview", .text)]

def toJson (h : HistoryItem) : Json :=
  .object
    [("id", .text h.id), ("code", .text h.code), ("results", h.results.toJson),
      ("timestamp", h.time.toJson), ("preview", .text h.preview)]

def ofJson? (v : Json) : Option HistoryItem := do
  let id ← memberAs Json.asText? "id" v
  let code ← memberAs Json.asText? "code" v
  let results ← memberAs Analysis.ofJson? "results" v
  let time ← memberAs Instant.ofJson? "timestamp" v
  let preview ← memberAs Json.asText? "preview" v
  some ⟨id, code, results, time, preview⟩

end HistoryItem

namespace Bookmark

def new (id : String) (time : Instant) (name code : String) (results : Option Analysis) :
    Bookmark :=
  ⟨id, name, code, results, time, FeatureScan.preview code⟩

def shape : Json.Shape :=
  .record "Bookmark"
    [("id", .text), ("name", .text), ("code", .text), ("results", .option Analysis.shape),
      ("timestamp", Instant.shape), ("preview", .text)]

def toJson (b : Bookmark) : Json :=
  .object
    [("id", .text b.id), ("name", .text b.name), ("code", .text b.code),
      ("results", match b.results with
        | some a => a.toJson
        | none => .null),
      ("timestamp", b.time.toJson), ("preview", .text b.preview)]

def resultsOfJson? : Json → Option (Option Analysis)
  | .null => some none
  | v => (Analysis.ofJson? v).map some

def ofJson? (v : Json) : Option Bookmark := do
  let id ← memberAs Json.asText? "id" v
  let name ← memberAs Json.asText? "name" v
  let code ← memberAs Json.asText? "code" v
  let results ← memberAs resultsOfJson? "results" v
  let time ← memberAs Instant.ofJson? "timestamp" v
  let preview ← memberAs Json.asText? "preview" v
  some ⟨id, name, code, results, time, preview⟩

end Bookmark

instance : Kept HistoryItem where
  key := "baseline-history"
  shape := HistoryItem.shape
  toJson := HistoryItem.toJson
  ofJson? := HistoryItem.ofJson?
  id := HistoryItem.id

instance : Kept Bookmark where
  key := "baseline-bookmarks"
  shape := Bookmark.shape
  toJson := Bookmark.toJson
  ofJson? := Bookmark.ofJson?
  id := Bookmark.id

namespace Kept

variable {α : Type} [Kept α]

def ofDocument? (text : String) : Option (List α) :=
  match (Json.Shape.list (shape α)).readDocument text with
  | .ok v => Json.asListOf? ofJson? v
  | .error _ => none

/-- Why a text that holds no list cannot be read. -/
def documentFault (α : Type) [Kept α] (text : String) : DocumentFault :=
  match (Json.Shape.list (shape α)).readDocument text with
  | .ok _ => ⟨⟨.unsuitable none, 0, false⟩, text⟩
  | .error problem => ⟨problem, text⟩

def toDocument (entries : List α) : Json := .list (entries.map toJson)

/-- The list with an entry put in front of those with other ids. -/
def prepend (e : α) (entries : List α) : List α :=
  e :: entries.filter fun other => id other ≠ id e

variable {m : Type → Type} [Monad m]

/-- The list under a key, if there is anything. -/
def getList (s : Store m) (key : String) : ExceptT StoreFault m (Option (List α)) := do
  match ← s.get key with
  | none => return none
  | some text =>
      match ofDocument? text with
      | some entries => return some entries
      | none => throw (.json (documentFault α text))

def setList (s : Store m) (key : String) (entries : List α) : ExceptT StoreFault m Unit :=
  s.setJson key (toDocument entries)

def load (s : Store m) : ExceptT StoreFault m (List α) :=
  tryCatch (do return (← getList s (key α)).getD []) fun
    | .json _ => return []
    | fault => throw fault

def save (s : Store m) (entries : List α) : ExceptT StoreFault m Unit :=
  setList s (key α) entries

def find? (s : Store m) (i : String) : ExceptT StoreFault m (Option α) :=
  return (← load s).find? fun e => id e == i

end Kept

namespace History

variable {m : Type → Type} [Monad m]

def limit : Nat := 50

def list (s : Store m) : ExceptT StoreFault m (List HistoryItem) := Kept.load s

/-- Puts an item in front and drops what is beyond the limit. -/
def record (s : Store m) (item : HistoryItem) : ExceptT StoreFault m (List HistoryItem) := do
  let items := (Kept.prepend item (← list s)).take limit
  Kept.save s items
  return items

def find? (s : Store m) (id : String) : ExceptT StoreFault m (Option HistoryItem) :=
  Kept.find? s id

def clear (s : Store m) : ExceptT StoreFault m Unit := s.remove (Kept.key HistoryItem)

end History

namespace Bookmarks

variable {m : Type → Type} [Monad m]

def list (s : Store m) : ExceptT StoreFault m (List Bookmark) := Kept.load s

def save (s : Store m) (b : Bookmark) : ExceptT StoreFault m (List Bookmark) := do
  let bookmarks := Kept.prepend b (← list s)
  Kept.save s bookmarks
  return bookmarks

/-- Removes the bookmark of an id, if there is one, and gives those that remain. -/
def remove (s : Store m) (id : String) : ExceptT StoreFault m (List Bookmark) := do
  let bookmarks := (← list s).filter fun b => b.id ≠ id
  Kept.save s bookmarks
  return bookmarks

def find? (s : Store m) (id : String) : ExceptT StoreFault m (Option Bookmark) :=
  Kept.find? s id

end Bookmarks
end FeatureScan
