import FeatureScan.Fault
import FeatureScan.Text.Pieces

/-!
What the program needs of a file system: reading a file as text, listing a directory, and
four steps that change something. Each step is one value, so that a change of several
steps is a list and can be looked at after any of them.
-/

namespace FeatureScan

/-- The parts of a path, from the root or from the working directory. The path without
parts names nothing, and an empty part at the end asks for a directory. -/
structure Path where
  absolute : Bool
  parts : List String
  deriving Repr, DecidableEq

namespace Path

def ofString (s : String) : Path :=
  let parts := ((Text.pieces (· == '/') s.toList).filter (· ≠ [])).map String.ofList
  let slashLast := s.toList.getLast? = some '/'
  ⟨s.toList.head? = some '/', if slashLast && !parts.isEmpty then parts ++ [""] else parts⟩

def toString (p : Path) : String :=
  (if p.absolute then "/" else "") ++ String.intercalate "/" p.parts

/-- The parts that are names. -/
def names (p : Path) : List String := p.parts.filter (· ≠ "")

/-- Whether the path asks for a directory by its last character. -/
def asksForDirectory (p : Path) : Bool := p.parts.getLast? == some ""

def child (p : Path) (name : String) : Path := { p with parts := p.names ++ [name] }

end Path

inductive FileStep where
  /-- Makes the directory and those above it, as far as they are missing. -/
  | createDirs (dir : Path)
  /-- Puts a text into a file, which is made or emptied first. -/
  | write (file : Path) (text : String)
  /-- Gives a file another name, in place of a file of that name. -/
  | rename (source target : Path)
  | remove (file : Path)
  deriving Repr, DecidableEq

class FileSystem (m : Type → Type) where
  read : Path → m (Except FileFault String)
  /-- The names in a directory, in any order. -/
  list : Path → m (Except FileFault (List String))
  perform : FileStep → m (Except FileFault Unit)

namespace FileSystem

/-- Performs the steps in order, up to the first one that fails. -/
def performAll {m : Type → Type} [Monad m] [FileSystem m] :
    List FileStep → m (Except FileFault Unit)
  | [] => pure (.ok ())
  | step :: rest => do
      match ← perform step with
      | .ok () => performAll rest
      | .error fault => pure (.error fault)

end FileSystem
end FeatureScan
