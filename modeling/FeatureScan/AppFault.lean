import FeatureScan.ShareLink
import FeatureScan.Store

/-!
What the program tells its user when it cannot do what it was asked for.
-/

namespace FeatureScan

inductive AppFault where
  | invalidInput (message : String)
  | notFound (what : String)
  | link (fault : LinkFault)
  | scan (fault : ScanFault)
  | store (fault : StoreFault)
  | file (fault : FileFault)
  deriving Repr, DecidableEq

namespace AppFault

def message : AppFault → String
  | .invalidInput message => message
  | .notFound what => "Not found: " ++ what
  | .link fault => "Invalid share link: " ++ fault.message
  | .scan fault => fault.message
  | .store fault => "Storage error: " ++ fault.message
  | .file fault => "IO error: " ++ fault.message

/-- The causes that the message already quotes, outermost first. -/
def causes : AppFault → List String
  | .scan fault => fault.causes
  | .store fault => fault.message :: fault.causes
  | .file fault => [fault.message]
  | _ => []

/-- The exit code of a run that ends with the fault. -/
def exitCode : AppFault → Nat
  | .invalidInput _ | .link _ => 2
  | .notFound _ => 3
  | .scan _ | .store _ | .file _ => 1

end AppFault
end FeatureScan
