/-!
Where the program keeps its data and where it takes its dataset from: what the command
line says, or else a variable of the environment, or else a default.
-/

namespace FeatureScan
namespace Settings

/-- The variables of an environment. -/
abbrev Variables := String → Option String

def dataDirVariable : String := "BASELINE_CHECK_DATA"

def datasetVariable : String := "BASELINE_CHECK_DATASET"

/-- The variables that name the user's own directory, the first one first. -/
def homeVariables : List String := ["HOME", "USERPROFILE"]

/-- The directory for the data below the user's own one. -/
def defaultName : String := ".baseline-check"

/-- A name in a directory. The empty text is the working directory. -/
def joined (dir name : String) : String :=
  if dir = "" ∨ dir.toList.getLast? = some '/' then dir ++ name else dir ++ "/" ++ name

def dataDir (given : Option String) (env : Variables) : String :=
  match given.or (env dataDirVariable) with
  | some dir => dir
  | none => joined ((homeVariables.findSome? env).getD ".") defaultName

/-- The file of the dataset. There is none for the built-in dataset, which an empty name
asks for. -/
def dataset (given : Option String) (env : Variables) : Option String :=
  (given.or (env datasetVariable)).filter (· ≠ "")

end Settings
end FeatureScan
