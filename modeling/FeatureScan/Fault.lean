import FeatureScan.Analysis
import FeatureScan.Json.Reader

/-!
What can go wrong with the files, datasets and reports that the program is given.
-/

namespace FeatureScan

/-- Why a file operation fails. -/
inductive FileFault where
  | notFound
  | alreadyExists
  | notDirectory
  | isDirectory
  | nameTooLong
  | notUtf8
  | other (text : String)
  deriving Repr, DecidableEq

namespace FileFault

/-- The text of the operating system. -/
def message : FileFault → String
  | .notFound => "No such file or directory (os error 2)"
  | .alreadyExists => "File exists (os error 17)"
  | .notDirectory => "Not a directory (os error 20)"
  | .isDirectory => "Is a directory (os error 21)"
  | .nameTooLong => "File name too long (os error 36)"
  | .notUtf8 => "stream did not contain valid UTF-8"
  | .other text => text

end FileFault

/-- A problem with a JSON document. -/
structure DocumentFault where
  problem : Json.Problem
  document : String
  deriving Repr, DecidableEq

namespace DocumentFault

def message (f : DocumentFault) : String := f.problem.describe f.document.toList

end DocumentFault

/-- What can go wrong before and after an analysis. -/
inductive ScanFault where
  | file (fault : FileFault)
  | json (fault : DocumentFault)
  | dataset (message : String)
  | report (flaw : Flaw)
  | input (message : String)
  deriving Repr, DecidableEq

namespace ScanFault

def message : ScanFault → String
  | .file fault => "IO error: " ++ fault.message
  | .json fault => "JSON error: " ++ fault.message
  | .dataset message => "Dataset error: " ++ message
  | .report flaw => "Invalid report: " ++ flaw.message
  | .input message => "Invalid input: " ++ message

/-- The causes that a message already quotes, outermost first. -/
def causes : ScanFault → List String
  | .file fault => [fault.message]
  | .json fault => [fault.message]
  | _ => []

end ScanFault

/-- The status that a name stands for. -/
def Support.read (name : String) : Except ScanFault Support :=
  match ofName? name with
  | some s => .ok s
  | none => .error (.input (unknownNameMessage name))

end FeatureScan
