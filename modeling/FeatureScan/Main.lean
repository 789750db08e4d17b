import FeatureScan.Command.Run
import FeatureScan.Identifier
import Std.Time.DateTime.Timestamp

/-!
The program on the files, the clock and the streams of a real system.
-/

namespace FeatureScan
namespace Main

/-- The number that the system gives an error. Some come with their sign turned. -/
def errorNumber (code : UInt32) : Nat := if code < 0x80000000 then code.toNat else (0 - code).toNat

/-- The fault of a number of the system. -/
def faultOf (number : Nat) (text : String) : FileFault :=
  match number with
  | 2 => .notFound
  | 17 => .alreadyExists
  | 20 => .notDirectory
  | 21 => .isDirectory
  | 36 => .nameTooLong
  | n => .other (text ++ " (os error " ++ toString n ++ ")")

def faultOfError : IO.Error → FileFault
  | .alreadyExists _ code text | .permissionDenied _ code text
  | .resourceExhausted _ code text | .inappropriateType _ code text
  | .noSuchThing _ code text | .invalidArgument _ code text
  | .noFileOrDirectory _ code text | .interrupted _ code text
  | .otherError code text | .resourceBusy code text | .resourceVanished code text
  | .unsupportedOperation code text | .hardwareFault code text
  | .unsatisfiedConstraints code text | .illegalOperation code text
  | .protocolError code text | .timeExpired code text => faultOf (errorNumber code) text
  | .unexpectedEof => .other "unexpected end of file"
  | .userError text => .other text

def attempt {α : Type} (act : IO α) : IO (Except FileFault α) := do
  try return .ok (← act) catch e => return .error (faultOfError e)

def textOf (bytes : ByteArray) : Except FileFault String :=
  match String.fromUTF8? bytes with
  | some text => .ok text
  | none => .error .notUtf8

partial def readToEnd (stream : IO.FS.Stream) (read : ByteArray) : IO ByteArray := do
  let chunk ← stream.read 65536
  if chunk.isEmpty then return read else readToEnd stream (read ++ chunk)

instance : Host IO where
  read p := do return (← attempt (IO.FS.readBinFile p.toString)).bind textOf
  list p := attempt do
    let entries ← ((← IO.currentDir) / p.toString).readDir
    return entries.toList.map (·.fileName)
  perform step := attempt do
    match step with
    | .createDirs dir => IO.FS.createDirAll dir.toString
    | .write file text => IO.FS.writeFile file.toString text
    | .rename source target => IO.FS.rename source.toString target.toString
    | .remove file => IO.FS.removeFile file.toString
  input := do return (← attempt (do readToEnd (← IO.getStdin) .empty)).bind textOf
  now := do
    let nanos := (← Std.Time.Timestamp.now).toNanosecondsSinceUnixEpoch.val
    return ⟨nanos / Instant.nanosPerSecond, (nanos % Instant.nanosPerSecond).toNat⟩
  freshId := do return Identifier.ofBytes ((← IO.getRandomBytes 16).toList.map UInt8.toNat)

/-- The value of each variable that the settings may ask for. -/
def readVariables : IO Settings.Variables := do
  let dataDir ← IO.getEnv Settings.dataDirVariable
  let dataset ← IO.getEnv Settings.datasetVariable
  let home ← Settings.homeVariables.mapM fun name => do return (name, ← IO.getEnv name)
  let read := (Settings.dataDirVariable, dataDir) :: (Settings.datasetVariable, dataset) :: home
  return fun name => (read.lookup name).join

end Main
end FeatureScan

def main (args : List String) : IO UInt32 := do
  let ending ← FeatureScan.Command.run (m := IO) args (← FeatureScan.Main.readVariables)
  IO.print ending.output
  if let some text := ending.told then IO.eprintln text
  return ending.exitCode.toUInt32
