import FeatureScan.Dataset
import FeatureScan.Fault
import FeatureScan.Json.Shape

/-!
Reading a dataset: a JSON object whose members are true, false or null. A null says no
more than an absent member.
-/

namespace FeatureScan
namespace Dataset

/-- The flags of the members of an object, or what is wrong with the first bad one. -/
def flagsOf : List (String × Json) → Except String (List (String × Option Bool))
  | [] => .ok []
  | (id, v) :: rest =>
      match (Json.Shape.option .flag).take v with
      | .error message => .error (message.getD "")
      | .ok v => do
          let flag := match v with
            | .bool b => some b
            | _ => none
          return (id, flag) :: (← flagsOf rest)

def read (text : String) : Except ScanFault Dataset :=
  match Json.read text.toList with
  | .error problem => .error (.json ⟨problem, text⟩)
  | .ok (.object members) =>
      match flagsOf members with
      | .ok flags => .ok (ofFlags flags)
      | .error message => .error (.dataset ("invalid feature flags: " ++ message))
  | .ok _ => .error (.dataset "expected a JSON object of feature flags")

end Dataset
end FeatureScan
