import FeatureScan.Fault
import FeatureScan.JsonForm

/-!
Stores of texts under keys. A key is a word of ASCII letters, digits, hyphens and
underscores, so it can serve as the name of a file.
-/

namespace FeatureScan

inductive StoreFault where
  | file (fault : FileFault)
  | json (fault : DocumentFault)
  | invalidKey (key : String)
  deriving Repr, DecidableEq

namespace StoreFault

def message : StoreFault → String
  | .file fault => "IO error: " ++ fault.message
  | .json fault => "JSON error: " ++ fault.message
  | .invalidKey key => "Invalid storage key: " ++ Text.quoted key

/-- The causes that the message already quotes. -/
def causes : StoreFault → List String
  | .file fault => [fault.message]
  | .json fault => [fault.message]
  | .invalidKey _ => []

end StoreFault

/-- Whether a text may be a key. -/
def isKey (key : String) : Bool :=
  key ≠ "" && key.toList.all fun c => c.isAlphanum || c == '-' || c == '_'

/-- The operations of a store. -/
structure Store (m : Type → Type) where
  get : String → ExceptT StoreFault m (Option String)
  set : String → String → ExceptT StoreFault m Unit
  remove : String → ExceptT StoreFault m Unit
  /-- The keys in increasing order. -/
  keys : ExceptT StoreFault m (List String)

namespace Store

variable {m : Type → Type} [Monad m]

def checkKey (key : String) : ExceptT StoreFault m Unit :=
  if isKey key then pure () else throw (.invalidKey key)

/-- The document under a key, as its text is read by a shape. -/
def getDocument (s : Store m) (key : String)
    (read : List Char → Except Json.Problem Json) : ExceptT StoreFault m (Option Json) := do
  match ← s.get key with
  | none => return none
  | some text =>
      match read text.toList with
      | .ok v => return some v
      | .error problem => throw (.json ⟨problem, text⟩)

/-- The plain value under a key. -/
def getJson (s : Store m) (key : String) : ExceptT StoreFault m (Option Json) :=
  s.getDocument key Json.read

def setJson (s : Store m) (key : String) (v : Json) : ExceptT StoreFault m Unit :=
  s.set key v.compact

end Store
end FeatureScan
