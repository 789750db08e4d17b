import FeatureScan.Command.Run
import FeatureScan.Disk
import FeatureScan.Identifier

/-!
A machine as a value: a disk, the standard input, a clock and identifiers that are given out one
after the other. The program runs on it as it runs on a real system.
-/

namespace FeatureScan

structure Machine where
  disk : Disk
  input : Except FileFault String
  /-- What the clock shows each time that it is looked at. -/
  clock : Nat → Instant
  /-- How many times the clock was looked at, and how many identifiers were given. -/
  looks : Nat
  given : Nat

namespace Machine

/-- A machine that runs for the first time, with the clock at rest. -/
def start (disk : Disk) (input : String) : Machine := ⟨disk, .ok input, fun _ => ⟨0, 0⟩, 0, 0⟩

/-- The lowest bytes of a number, the lowest one first. -/
def numberBytes : (bytes n : Nat) → List Nat
  | 0, _ => []
  | bytes + 1, n => n % 256 :: numberBytes bytes (n / 256)

def node? (w : Machine) : Place → Option Node := w.disk.node?

end Machine

/-- What is left of the standard input once it was read is nothing. -/
instance : Host (StateM Machine) where
  read p := return (← get).disk.read p
  list p := return (← get).disk.list p
  perform step := do
    match (← get).disk.perform step with
    | .ok disk => modify ({ · with disk }); return .ok ()
    | .error fault => return .error fault
  input := modifyGet fun w => (w.input, { w with input := .ok "" })
  now := modifyGet fun w => (w.clock w.looks, { w with looks := w.looks + 1 })
  freshId := modifyGet fun w =>
    (Identifier.ofBytes (Machine.numberBytes 16 w.given), { w with given := w.given + 1 })

end FeatureScan
