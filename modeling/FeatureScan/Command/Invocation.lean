import FeatureScan.Command.Arguments
import FeatureScan.Report

/-!
The commands of the program and how a command line asks for one.
-/

namespace FeatureScan
namespace Command

/-- The options of a listing. -/
structure Listing where
  support : Option Support
  search : Option String
  sort : Option SortKey
  page : Option Nat
  deriving Repr, DecidableEq

namespace Listing

def none : Listing := ⟨.none, .none, .none, .none⟩

/-- The listing that is asked for, if any option is given. -/
def query? (l : Listing) : Option Query :=
  if l = none then .none
  else
    some { Query.all with
      support := l.support
      search := l.search
      sort := l.sort.getD .status
      page := l.page.getD 1 }

end Listing

/-- The shells that can be told how to complete a command line. -/
inductive Shell where
  | bash
  | elvish
  | fish
  | powershell
  | zsh
  deriving Repr, DecidableEq

namespace Shell

def ofName? : String → Option Shell
  | "bash" => some .bash
  | "elvish" => some .elvish
  | "fish" => some .fish
  | "powershell" => some .powershell
  | "zsh" => some .zsh
  | _ => none

end Shell

end Command

inductive Command where
  | analyze (file : Option String) (format : Report.Format) (output : Option String)
      (keep : Bool) (docs : Bool) (listing : Command.Listing)
  | historyList
  | historyShow (id : String) (format : Report.Format) (listing : Command.Listing)
  | historyClear
  | bookmarkAdd (name : String) (file : Option String)
  | bookmarkList
  | bookmarkRemove (id : String)
  | docs (id : String)
  | features (category : Option Category)
  | shareEncode (file : Option String)
  | shareDecode (link : String)
  | samples (name : Option String) (analyze : Bool) (format : Report.Format)
  | completions (shell : Command.Shell)
  deriving Repr, DecidableEq

namespace Command

open Report (Format)

/-- A command with the settings that every command takes. -/
structure Invocation where
  dataset : Option String
  dataDir : Option String
  command : Command
  deriving Repr, DecidableEq

def valued (name : String) : OptionSpec := ⟨name, none, true⟩

def formatOption : OptionSpec := ⟨"format", some 'f', true⟩

/-- The options that may stand at every level. -/
def settings : List OptionSpec := [valued "dataset", valued "data-dir", valued "log-level"]

def listingOptions : List OptionSpec :=
  [valued "status", valued "search", valued "sort", valued "page"]

/-- A whole number of 64 bits, perhaps with a plus sign. -/
def readCount (s : String) : Except Stop Nat :=
  let digits := match s.toList with
    | '+' :: rest => rest
    | all => all
  let n := Text.decimalValue digits
  if !digits.isEmpty && digits.all Char.isDigit && n ≤ Json.greatestWhole then .ok n else .error .usage

/-- The value of an option as one of a few names. -/
def named {α : Type} (l : Level) (option : String) (ofName? : String → Option α) :
    Except Stop (Option α) :=
  match l.value? option with
  | none => .ok none
  | some name =>
      match ofName? name with
      | some v => .ok (some v)
      | none => .error .usage

def formatOf (l : Level) : Except Stop Format := do
  return (← named l "format" Format.ofName?).getD .text

def listingOf (l : Level) : Except Stop Listing := do
  let page ← match l.value? "page" with
    | none => pure .none
    | some n => do pure (some (← readCount n))
  return {
    support := ← named l "status" Support.ofName?
    search := l.value? "search"
    sort := ← named l "sort" SortKey.ofName?
    page }

/-- The name of an output file, which is not empty. -/
def outputOf (l : Level) : Except Stop (Option String) :=
  match l.value? "output" with
  | some "" => .error .usage
  | output => .ok output

def noOperand (l : Level) : Except Stop Unit :=
  if l.operands.isEmpty then .ok () else .error .usage

def oneOperand (l : Level) : Except Stop String :=
  match l.operands with
  | [v] => .ok v
  | _ => .error .usage

def optionalOperand (l : Level) : Except Stop (Option String) :=
  match l.operands with
  | [] => .ok none
  | [v] => .ok (some v)
  | _ => .error .usage

/-- Reads a level without subcommands, with the settings among its options. -/
def leaf (specs : List OptionSpec) (args : List String) : Except Stop Level :=
  readLevel (specs ++ settings) false false (args.length + 1) .empty args

/-- Reads a level that names a subcommand. -/
def group (withVersion : Bool) (args : List String) :
    Except Stop (Level × String × List String) := do
  let l ← readLevel settings withVersion true (args.length + 1) .empty args
  match l.subcommand with
  | some ("help", _) => .error .help
  | some (name, rest) => .ok (l, name, rest)
  | none => .error .usage

def readAnalyze (args : List String) : Except Stop (Level × Command) := do
  let l ← leaf
    ([formatOption, ⟨"output", some 'o', true⟩, ⟨"no-history", none, false⟩,
      ⟨"docs", none, false⟩] ++ listingOptions) args
  return (l, .analyze (← optionalOperand l) (← formatOf l) (← outputOf l) (!l.has "no-history")
    (l.has "docs") (← listingOf l))

def readHistory (name : String) (args : List String) : Except Stop (Level × Command) := do
  match name with
  | "list" => do
      let l ← leaf [] args
      noOperand l
      return (l, .historyList)
  | "show" => do
      let l ← leaf (formatOption :: listingOptions) args
      return (l, .historyShow (← oneOperand l) (← formatOf l) (← listingOf l))
  | "clear" => do
      let l ← leaf [] args
      noOperand l
      return (l, .historyClear)
  | _ => .error .usage

def readBookmark (name : String) (args : List String) : Except Stop (Level × Command) := do
  match name with
  | "add" => do
      let l ← leaf [] args
      match l.operands with
      | [name] => return (l, .bookmarkAdd name none)
      | [name, file] => return (l, .bookmarkAdd name (some file))
      | _ => .error .usage
  | "list" => do
      let l ← leaf [] args
      noOperand l
      return (l, .bookmarkList)
  | "remove" => do
      let l ← leaf [] args
      return (l, .bookmarkRemove (← oneOperand l))
  | _ => .error .usage

def readShare (name : String) (args : List String) : Except Stop (Level × Command) := do
  match name with
  | "encode" => do
      let l ← leaf [] args
      return (l, .shareEncode (← optionalOperand l))
  | "decode" => do
      let l ← leaf [] args
      return (l, .shareDecode (← oneOperand l))
  | _ => .error .usage

/-- A level of subcommands below the first one. -/
def nested (read : String → List String → Except Stop (Level × Command)) (args : List String) :
    Except Stop (List Level × Command) := do
  let (outer, name, rest) ← group false args
  let (inner, command) ← read name rest
  return ([inner, outer], command)

def readCommand (name : String) (args : List String) : Except Stop (List Level × Command) := do
  let single (r : Except Stop (Level × Command)) := r.map fun (l, c) => ([l], c)
  match name with
  | "analyze" => single (readAnalyze args)
  | "history" => nested readHistory args
  | "bookmark" => nested readBookmark args
  | "docs" => do
      let l ← leaf [] args
      return ([l], .docs (← oneOperand l))
  | "features" => do
      let l ← leaf [valued "category"] args
      noOperand l
      return ([l], .features (← named l "category" Category.ofName?))
  | "share" => nested readShare args
  | "samples" => do
      let l ← leaf [formatOption, ⟨"analyze", none, false⟩] args
      return ([l], .samples (← optionalOperand l) (l.has "analyze") (← formatOf l))
  | "completions" => do
      let l ← leaf [] args
      match Shell.ofName? (← oneOperand l) with
      | some shell => return ([l], .completions shell)
      | none => .error .usage
  | _ => .error .usage

/-- What a command line asks for. A setting given at several levels counts as given at
the innermost one. -/
def read (args : List String) : Except Stop Invocation := do
  let (outer, name, rest) ← group true args
  let (levels, command) ← readCommand name rest
  let setting (name : String) := (levels ++ [outer]).findSome? (·.value? name)
  return ⟨setting "dataset", setting "data-dir", command⟩

end Command
end FeatureScan
