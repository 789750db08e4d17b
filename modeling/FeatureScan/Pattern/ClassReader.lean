import FeatureScan.Pattern.Regex
import FeatureScan.Text.Digits

/-!
Reading the written form of a single character or of a character set: escapes, named
classes and bracketed classes with their set operations. How a set is read depends on
the mode in force at that place of the pattern.
-/

namespace FeatureScan
namespace Pattern

structure Mode where
  caseless : Bool
  multiLine : Bool
  dotAll : Bool
  swapGreed : Bool
  unicode : Bool
  /-- Blanks and comments between the parts of the pattern are skipped. -/
  verbose : Bool
  anyLineEnd : Bool
  deriving Repr, DecidableEq

namespace Mode

/-- The mode in which every rule of a catalog starts. -/
def caseInsensitive : Mode := ⟨true, false, false, false, true, false, false⟩

def fold (mode : Mode) (s : CharSet) : CharSet :=
  if mode.caseless then
    if mode.unicode then .caseless s else .asciiCaseless s
  else
    s

def word (mode : Mode) : CharSet := if mode.unicode then .word else .asciiWord

def blank (mode : Mode) : CharSet := if mode.unicode then .blank else .asciiBlank

def digit (mode : Mode) : CharSet := if mode.unicode then .digit else .asciiDigit

/-- The set of one written character. Outside Unicode mode only ASCII letters have a
second case. -/
def literal (mode : Mode) (c : Char) : CharSet :=
  if mode.caseless then
    if mode.unicode then .caseless (.single c)
    else if c.isAlpha then .asciiCaseless (.single c)
    else .single c
  else
    .single c

/-- Outside Unicode mode a set must not hold characters beyond ASCII. -/
def admits (mode : Mode) (s : CharSet) : Bool := mode.unicode || s.isAsciiOnly

end Mode

/-- The number that hexadecimal digits write; nothing for no digit or another character. -/
def hexNumber? (digits : List Char) : Option Nat :=
  if digits.isEmpty then none
  else digits.foldlM (fun n c => (Text.hexDigit? c).map (16 * n + ·)) 0

def charOfCode? (n : Nat) : Option Char :=
  if n < 0xd800 ∨ (0xdfff < n ∧ n < 0x110000) then some (Char.ofNat n) else none

inductive Escape where
  /-- One character; `byte` marks the two-digit hexadecimal form, which names a byte
  outside Unicode mode. -/
  | char (c : Char) (byte : Bool)
  | set (s : CharSet)
  | look (anchor : Anchor)
  deriving Repr, DecidableEq

/-- The character written by hexadecimal digits, either in braces or as many as `width`. -/
def readHex (width : Nat) (input : List Char) : Option (Char × List Char) :=
  match input with
  | '{' :: rest =>
      match rest.span (· ≠ '}') with
      | (digits, '}' :: rest) => do
          let c ← (← hexNumber? digits) |> charOfCode?
          some (c, rest)
      | _ => none
  | _ =>
      if width ≤ input.length then do
        let c ← (← hexNumber? (input.take width)) |> charOfCode?
        some (c, input.drop width)
      else
        none

/-- Special word edges, written in braces after `\b`. Braces that begin with another
character than a letter or a hyphen are left to be read as a repetition. -/
def readWordEdge (letters : CharSet) (input : List Char) : Option (Anchor × List Char) :=
  match input with
  | '{' :: rest =>
      match rest.span fun c => c.isAlpha || c == '-' with
      | ([], []) => none
      | ([], _ :: _) => some (.wordEdge letters, input)
      | (name, '}' :: rest) =>
          match String.ofList name with
          | "start" => some (.wordStart letters, rest)
          | "end" => some (.wordEnd letters, rest)
          | "start-half" => some (.wordStartHalf letters, rest)
          | "end-half" => some (.wordEndHalf letters, rest)
          | _ => none
      | _ => none
  | _ => some (.wordEdge letters, input)

def withNegation (negated : Bool) (s : CharSet) : CharSet :=
  if negated then .compl s else s

/-- A property named after `\p` or `\P`. Only the properties that rest on the tables of
this library are known. -/
def readProperty (negated : Bool) (input : List Char) : Option (CharSet × List Char) :=
  match input with
  | '{' :: rest =>
      match rest.span (· ≠ '}') with
      | (name, '}' :: rest) =>
          let plain := name.filter fun c => c ≠ '_' ∧ c ≠ '-' ∧ c ≠ ' '
          (match String.ofList (plain.map Char.toLower) with
          | "any" => some CharSet.any
          | "ascii" => some (.range 0 0x7f)
          | "nd" | "decimalnumber" | "digit" => some .digit
          | "whitespace" | "wspace" | "space" => some .blank
          | _ => none).map fun s => (withNegation negated s, rest)
      | _ => none
  | _ => none

def readEscape (mode : Mode) : List Char → Option (Escape × List Char)
  | [] => none
  | c :: rest =>
      let perl (negated : Bool) (s : CharSet) := some (.set (withNegation negated s), rest)
      let plain (c : Char) := some (.char c false, rest)
      let property (negated : Bool) :=
        if mode.unicode then
          (readProperty negated rest).map fun (s, rest) => (.set s, rest)
        else
          none
      match c with
      | 'd' => perl false mode.digit
      | 'D' => perl true mode.digit
      | 's' => perl false mode.blank
      | 'S' => perl true mode.blank
      | 'w' => perl false mode.word
      | 'W' => perl true mode.word
      | 'p' => property false
      | 'P' => property true
      | 'x' =>
          (readHex 2 rest).map fun (c, after) => (.char c (rest.head? ≠ some '{'), after)
      | 'u' => (readHex 4 rest).map fun (c, after) => (.char c false, after)
      | 'U' => (readHex 8 rest).map fun (c, after) => (.char c false, after)
      | 'a' => plain '\x07'
      | 'f' => plain '\x0c'
      | 't' => plain '\t'
      | 'n' => plain '\n'
      | 'r' => plain '\r'
      | 'v' => plain '\x0b'
      | 'A' => some (.look .textStart, rest)
      | 'z' => some (.look .textEnd, rest)
      | 'b' => (readWordEdge mode.word rest).map fun (a, rest) => (.look a, rest)
      | 'B' => some (.look (.notWordEdge mode.word), rest)
      | '<' => some (.look (.wordStart mode.word), rest)
      | '>' => some (.look (.wordEnd mode.word), rest)
      | c => if c.toNat < 128 ∧ ¬ c.isAlphanum then plain c else none

def namedClass? (name : List Char) : Option CharSet :=
  match String.ofList name with
  | "alnum" => some (.ofIntervals [(0x30, 0x39), (0x41, 0x5a), (0x61, 0x7a)])
  | "alpha" => some (.ofIntervals [(0x41, 0x5a), (0x61, 0x7a)])
  | "ascii" => some (.range 0 0x7f)
  | "blank" => some (.ofIntervals [(0x09, 0x09), (0x20, 0x20)])
  | "cntrl" => some (.ofIntervals [(0x00, 0x1f), (0x7f, 0x7f)])
  | "digit" => some .asciiDigit
  | "graph" => some (.range 0x21 0x7e)
  | "lower" => some (.range 0x61 0x7a)
  | "print" => some (.range 0x20 0x7e)
  | "punct" =>
      some (.ofIntervals [(0x21, 0x2f), (0x3a, 0x40), (0x5b, 0x60), (0x7b, 0x7e)])
  | "space" => some .asciiBlank
  | "upper" => some (.range 0x41 0x5a)
  | "word" => some .asciiWord
  | "xdigit" => some (.ofIntervals [(0x30, 0x39), (0x41, 0x46), (0x61, 0x66)])
  | _ => none

def readNamedClass (mode : Mode) (input : List Char) : Option (CharSet × List Char) :=
  match input with
  | ':' :: rest =>
      let (negated, rest) := match rest with
        | '^' :: rest => (true, rest)
        | _ => (false, rest)
      match rest.span (· ≠ ':') with
      | (name, ':' :: ']' :: rest) =>
          (namedClass? name).map fun s => (withNegation negated (mode.fold s), rest)
      | _ => none
  | _ => none

/-- The characters that verbose mode skips: blanks, and comments up to the line end. -/
def skipVerbose : Nat → List Char → List Char
  | 0, input => input
  | fuel + 1, input =>
      match input with
      | '#' :: rest => skipVerbose fuel (rest.dropWhile (· ≠ '\n'))
      | c :: rest => if Text.isBlank c then skipVerbose fuel rest else input
      | [] => []

namespace Mode

def skip (mode : Mode) (input : List Char) : List Char :=
  if mode.verbose then skipVerbose input.length input else input

end Mode

inductive SetOperation where
  | intersection
  | difference
  | symmetricDifference
  deriving Repr, DecidableEq

namespace SetOperation

def apply (op : SetOperation) (a b : CharSet) : CharSet :=
  match op with
  | .intersection => .inter a b
  | .difference => .inter a (.compl b)
  | .symmetricDifference => .union (.inter a (.compl b)) (.inter b (.compl a))

end SetOperation

/-- One member of a bracketed class, before it is known whether a range follows. -/
def readClassMember (mode : Mode) (input : List Char) : Option (Escape × List Char) :=
  match input with
  | '\\' :: rest => readEscape mode rest
  | c :: rest => some (.char c false, rest)
  | [] => none

/-- The code of a member that may bound a range. Outside Unicode mode it must be ASCII. -/
def Escape.bound? (mode : Mode) : Escape → Option Nat
  | .char c _ => if mode.unicode || c.toNat < 128 then some c.toNat else none
  | _ => none

def Escape.members? (mode : Mode) : Escape → Option CharSet
  | .set s => some s
  | e => (e.bound? mode).map fun n => .range n n

def readClassRange (mode : Mode) (input : List Char) : Option (CharSet × List Char) := do
  let (low, rest) ← readClassMember mode input
  let rest := mode.skip rest
  match rest with
  | [] => none
  | '-' :: after =>
      match mode.skip after with
      | ']' :: _ | '-' :: _ => some (← low.members? mode, rest)
      | [] => none
      | after => do
          let (high, rest) ← readClassMember mode after
          let lo ← low.bound? mode
          let hi ← high.bound? mode
          if lo ≤ hi then some (.range lo hi, rest) else none
  | _ => some (← low.members? mode, rest)

/-- The start of a bracketed class, after its opening bracket: a negation, then hyphens
and, before any other member, a closing bracket that stand for themselves. -/
def readClassStart (mode : Mode) (input : List Char) : Bool × CharSet × List Char :=
  let input := mode.skip input
  let (negated, input) := match input with
    | '^' :: rest => (true, mode.skip rest)
    | _ => (false, input)
  match input.span (· = '-') with
  | ([], ']' :: rest) => (negated, .single ']', rest)
  | ([], rest) => (negated, .empty, rest)
  | (_ :: _, rest) => (negated, .single '-', rest)

/-- The rest of a bracketed class. `left` is what a pending set operation does to the
part that is being read, `part` the members of that part so far; the result is the
class with the case folding and the negation of its own brackets. -/
def readClassBody (mode : Mode) :
    Nat → Bool → (CharSet → CharSet) → CharSet → List Char → Option (CharSet × Nat × List Char)
  | 0, _, _, _, _ => none
  | fuel + 1, negated, left, part, input =>
      let operation (op : SetOperation) (rest : List Char) :=
        let whole := left part
        readClassBody mode fuel negated (fun s => op.apply (mode.fold whole) (mode.fold s)) .empty
          rest
      match mode.skip input with
      | [] => none
      | ']' :: rest => some (withNegation negated (mode.fold (left part)), 1, rest)
      | '&' :: '&' :: rest => operation .intersection rest
      | '-' :: '-' :: rest => operation .difference rest
      | '~' :: '~' :: rest => operation .symmetricDifference rest
      | '[' :: rest =>
          match readNamedClass mode rest with
          | some (s, rest) => readClassBody mode fuel negated left (.union part s) rest
          | none => do
              let (innerNegated, start, rest) := readClassStart mode rest
              let (s, depth, rest) ← readClassBody mode fuel innerNegated id start rest
              let (whole, outer, rest) ← readClassBody mode fuel negated left (.union part s) rest
              some (whole, max outer (depth + 1), rest)
      | input => do
          let (s, rest) ← readClassRange mode input
          readClassBody mode fuel negated left (.union part s) rest

/-- A bracketed class, after its opening bracket, with the depth of its brackets. -/
def readClass (mode : Mode) (input : List Char) : Option (CharSet × Nat × List Char) := do
  let (negated, start, rest) := readClassStart mode input
  let (s, depth, rest) ← readClassBody mode (input.length + 1) negated id start rest
  if mode.admits s then some (s, depth, rest) else none

end Pattern
end FeatureScan
