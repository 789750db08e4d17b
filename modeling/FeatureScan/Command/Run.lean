import FeatureScan.App
import FeatureScan.Command.Invocation
import FeatureScan.Report.Lines
import FeatureScan.Samples
import FeatureScan.Settings
import FeatureScan.Store.Files

/-!
Carrying out a command: what it prints, or with what words and which exit code it fails.
A command prints only when it has succeeded.
-/

namespace FeatureScan

/-- What a command uses of the world around it. -/
class Host (m : Type → Type) extends FileSystem m where
  /-- All of the standard input. -/
  input : m (Except FileFault String)
  now : m Instant
  /-- An identifier that was never given before. -/
  freshId : m String
  /-- The script that completes command lines in a shell, empty where none is at hand. -/
  completions : Command.Shell → String := fun _ => ""

namespace Command

structure Failure where
  message : String
  causes : List String
  exitCode : Nat
  deriving Repr, DecidableEq

namespace Failure

def ofApp (fault : AppFault) : Failure := ⟨fault.message, fault.causes, fault.exitCode⟩

def ofStore (fault : StoreFault) : Failure := ⟨fault.message, fault.causes, 1⟩

/-- The failure told as the cause of another one. -/
def within (f : Failure) (message : String) : Failure :=
  { f with message, causes := f.message :: f.causes }

/-- The line that tells the failure. A cause that the message quotes is told again. -/
def line (f : Failure) : String := "Error: " ++ String.intercalate ": " (f.message :: f.causes)

end Failure

/-- What a successful command prints, and what it tells beside that. -/
structure Printed where
  output : String
  notice : Option String
  deriving Repr, DecidableEq

def lines (texts : List String) : String := String.join (texts.map (· ++ "\n"))

def linesOr (ifEmpty : String) (texts : List String) : String :=
  lines (if texts.isEmpty then [ifEmpty] else texts)

section Parts

variable {m : Type → Type} [Monad m] [Host m]

/-- The snippet in a file, or that of the standard input when no file is named or the
name is a hyphen. -/
def snippet (file : Option String) : ExceptT AppFault m String := do
  match file.filter (· ≠ "-") with
  | some file => readCode (Path.ofString file)
  | none =>
      match ← Host.input (m := m) with
      | .error fault => throw (.file fault)
      | .ok code =>
          match requireCode code with
          | .error fault => throw fault
          | .ok code => return code

def reported {α : Type} (act : ExceptT AppFault m α) : ExceptT Failure m α := act.adapt .ofApp

def reportedStore {α : Type} (act : ExceptT StoreFault m α) : ExceptT Failure m α :=
  act.adapt .ofStore

/-- The dataset and the store that an invocation works with. -/
def openApp (i : Invocation) (env : Settings.Variables) : ExceptT Failure m (App m) := do
  let file := Settings.dataset i.dataset env
  let dataset ← (loadDataset (file.map Path.ofString)).adapt fun fault =>
    (Failure.ofApp fault).within ("could not load dataset " ++ file.getD "")
  return ⟨dataset, Store.files (Path.ofString (Settings.dataDir i.dataDir env))⟩

def analyzeSnippet (app : App m) (code : String) : ExceptT Failure m Analysis :=
  match app.analyze code with
  | .ok a => return a
  | .error fault => throw (.ofApp fault)

def rendered (a : Analysis) (format : Report.Format) (options : Report.TextOptions) :
    ExceptT Failure m String := do
  return Report.render a (← Host.now (m := m)) options format

/-- Puts a report into a file, or prints it. -/
def deliver (report : String) : Option String → ExceptT Failure m Printed
  | none => return ⟨report, none⟩
  | some file => do
      match ← FileSystem.perform (m := m) (.write (Path.ofString file) report) with
      | .ok () => return ⟨"", some ("Report written to " ++ file)⟩
      | .error fault => throw ⟨"could not write " ++ file, [fault.message], 1⟩

end Parts

def listedLine (l : Listed) : String :=
  Report.padRight 36 l.id ++ " " ++ Report.padRight 5 l.category.name ++ " " ++ l.support.name

def sampleLine (s : Sample) : String :=
  Report.padRight 12 s.name ++ " " ++ s.title ++ " - " ++ s.description

section Commands

variable {m : Type → Type} [Monad m] [Host m]

def perform (i : Invocation) (env : Settings.Variables) : ExceptT Failure m Printed := do
  let app : ExceptT Failure m (App m) := openApp i env
  let plain (output : String) : Printed := ⟨output, none⟩
  match i.command with
  | .analyze file format output keep withDocs listing => do
      let app ← app
      let code ← reported (snippet file)
      let a ← analyzeSnippet app code
      if keep then
        let _ ← app.record (← Host.freshId (m := m)) (← Host.now (m := m)) code a
      deliver (← rendered a format ⟨withDocs, listing.query?⟩) output
  | .historyList => do
      let items ← reportedStore (History.list (← app).store)
      return plain (linesOr "No history yet." (items.map Report.historyLine))
  | .historyShow id format listing => do
      let item ← reported ((← app).historyEntry id)
      let report ← rendered item.results format ⟨false, listing.query?⟩
      let code := if format = .text then Text.trimEnd item.code ++ "\n\n" else ""
      return plain (code ++ report)
  | .historyClear => do
      reportedStore (History.clear (← app).store)
      return plain (lines ["History cleared."])
  | .bookmarkAdd name file => do
      let app ← app
      let code ← reported (snippet file)
      let b ← reported (app.addBookmark (← Host.freshId (m := m)) (← Host.now (m := m)) name code)
      return plain (lines [b.id])
  | .bookmarkList => do
      let bookmarks ← reportedStore (Bookmarks.list (← app).store)
      return plain (linesOr "No bookmarks yet." (bookmarks.map Report.bookmarkLine))
  | .bookmarkRemove id => do
      let left ← reported ((← app).removeBookmark id)
      return plain
        (lines ["Removed " ++ id ++ " (" ++ toString left.length ++ " bookmarks left)."])
  | .docs id =>
      match Documentation.address? id with
      | some address => return plain (lines [address])
      | none => throw (.ofApp (.notFound ("no documentation for " ++ id)))
  | .features category => do
      return plain (lines (((← app).features category).map listedLine))
  | .shareEncode file => do
      return plain (lines ["#" ++ ShareLink.encode (← reported (snippet file))])
  | .shareDecode link =>
      match ShareLink.decode link with
      | .ok code => return plain code
      | .error fault => throw (.ofApp (.link fault))
  | .samples none _ _ => return plain (lines (Sample.all.map sampleLine))
  | .samples (some name) analyzes format =>
      match Sample.find? name with
      | none =>
          throw (.ofApp (.notFound ("sample " ++ name ++ " (available: " ++ Sample.names ++ ")")))
      | some sample =>
          if analyzes then do
            let a ← analyzeSnippet (← app) sample.code
            return plain (← rendered a format ⟨false, none⟩)
          else return plain sample.code
  | .completions shell => return plain (Host.completions (m := m) shell)

end Commands

def usage : String := String.intercalate "\n" [
  "Usage: baseline-check [--dataset FILE] [--data-dir DIR] [--log-level LEVEL] COMMAND",
  "",
  "  analyze [FILE] [-f text|json|markdown] [-o FILE] [--no-history] [--docs] [LISTING]",
  "  history list | show ID [-f FORMAT] [LISTING] | clear",
  "  bookmark add NAME [FILE] | list | remove ID",
  "  docs FEATURE",
  "  features [--category css|html|js|form]",
  "  share encode [FILE] | decode LINK",
  "  samples [NAME] [--analyze] [-f FORMAT]",
  "  completions bash|elvish|fish|powershell|zsh",
  "",
  "LISTING: [--status STATUS] [--search TEXT] [--sort status|feature] [--page N]"]

structure Ending where
  exitCode : Nat
  output : String
  /-- What is told beside the output: a notice, or the line of a failure. -/
  told : Option String
  deriving Repr, DecidableEq

namespace Ending

def versionLine : String := "baseline-check 0.1.0\n"

def ofStop : Stop → Ending
  | .usage => ⟨2, "", some usage⟩
  | .version => ⟨0, versionLine, none⟩
  | .help => ⟨0, usage ++ "\n", none⟩

def ofResult : Except Failure Printed → Ending
  | .ok printed => ⟨0, printed.output, printed.notice⟩
  | .error failure => ⟨failure.exitCode, "", some failure.line⟩

end Ending

def run {m : Type → Type} [Monad m] [Host m] (args : List String)
    (env : Settings.Variables) : m Ending := do
  match read args with
  | .error stop => return .ofStop stop
  | .ok invocation => return .ofResult (← (perform invocation env).run)

end Command
end FeatureScan
