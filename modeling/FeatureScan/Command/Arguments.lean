/-!
Splitting a command line into options and operands. An option has a long name and perhaps
a letter, and takes a value or not; the value follows in the next argument, after an
equals sign, or right behind the letter. A bare hyphen is an operand, and all arguments
after two hyphens are.
-/

namespace FeatureScan
namespace Command

structure OptionSpec where
  name : String
  letter : Option Char
  takesValue : Bool
  deriving Repr, DecidableEq

/-- Why a command line is not carried out. -/
inductive Stop where
  | usage
  | version
  | help
  deriving Repr, DecidableEq

/-- An option as it was given; the value of one without values is empty. -/
structure Given where
  name : String
  value : String
  deriving Repr, DecidableEq

/-- The arguments of one level of a command line: its options, its operands, and for a
level with subcommands the name of one and the arguments after it. -/
structure Level where
  options : List Given
  operands : List String
  subcommand : Option (String × List String)
  deriving Repr, DecidableEq

namespace Level

def empty : Level := ⟨[], [], none⟩

def value? (l : Level) (name : String) : Option String :=
  (l.options.find? (·.name == name)).map Given.value

def has (l : Level) (name : String) : Bool := l.options.any (·.name == name)

/-- Adds an option. No option is given twice at one level. -/
def add (l : Level) (name value : String) : Except Stop Level :=
  if l.has name then .error .usage else .ok { l with options := l.options ++ [⟨name, value⟩] }

end Level

/-- Whether an argument can be the value of the option before it. -/
def canBeValue (arg : String) : Bool := arg.toList.head? ≠ some '-' || arg == "-"

/-- What an option is that asks for information instead. -/
def informs? (withVersion : Bool) (name : String) : Option Stop :=
  if name = "help" then some .help
  else if withVersion && name = "version" then some .version
  else none

def letterName (specs : List OptionSpec) (c : Char) : Option OptionSpec :=
  specs.find? fun s => s.letter = some c

/-- An option by its long name, after the two hyphens. -/
def longOption (specs : List OptionSpec) (withVersion : Bool) (l : Level) (text : List Char)
    (next : Option String) : Except Stop (Level × Bool) :=
  let (name, value) := match text.span (· ≠ '=') with
    | (name, _ :: value) => (String.ofList name, some (String.ofList value))
    | (name, []) => (String.ofList name, none)
  match specs.find? (·.name == name), value with
  | some spec, some value =>
      if spec.takesValue then (l.add name value).map (·, false) else .error .usage
  | some spec, none =>
      if !spec.takesValue then (l.add name "").map (·, false)
      else
        match next with
        | some value =>
            if canBeValue value then (l.add name value).map (·, true) else .error .usage
        | none => .error .usage
  | none, none => .error ((informs? withVersion name).getD .usage)
  | none, some _ => .error .usage

/-- Options by their letters, after the hyphen. -/
def letterOptions (specs : List OptionSpec) (withVersion : Bool) (l : Level)
    (next : Option String) : List Char → Except Stop (Level × Bool)
  | [] => .ok (l, false)
  | c :: rest =>
      match letterName specs c with
      | none =>
          if c = 'h' then .error .help
          else if withVersion && c = 'V' then .error .version
          else .error .usage
      | some spec =>
          if !spec.takesValue then do
            let l ← l.add spec.name ""
            letterOptions specs withVersion l next rest
          else
            match rest with
            | '=' :: value => (l.add spec.name (String.ofList value)).map (·, false)
            | _ :: _ => (l.add spec.name (String.ofList rest)).map (·, false)
            | [] =>
                match next with
                | some value =>
                    if canBeValue value then (l.add spec.name value).map (·, true)
                    else .error .usage
                | none => .error .usage

/-- Reads the arguments of a level. `fuel` is more than their number. -/
def readLevel (specs : List OptionSpec) (withVersion hasSubcommands : Bool) :
    Nat → Level → List String → Except Stop Level
  | 0, l, _ => .ok l
  | _, l, [] => .ok l
  | fuel + 1, l, arg :: rest =>
      match arg.toList with
      | ['-', '-'] =>
          if hasSubcommands then .error .usage
          else .ok { l with operands := l.operands ++ rest }
      | '-' :: '-' :: text => do
          let (l, usesNext) ← longOption specs withVersion l text rest.head?
          readLevel specs withVersion hasSubcommands fuel l (if usesNext then rest.drop 1 else rest)
      | '-' :: c :: letters => do
          let (l, usesNext) ← letterOptions specs withVersion l rest.head? (c :: letters)
          readLevel specs withVersion hasSubcommands fuel l (if usesNext then rest.drop 1 else rest)
      | _ =>
          if hasSubcommands then .ok { l with subcommand := some (arg, rest) }
          else
            readLevel specs withVersion hasSubcommands fuel
              { l with operands := l.operands ++ [arg] } rest

end Command
end FeatureScan
