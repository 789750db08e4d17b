import FeatureScan.Json.Value
import FeatureScan.Binary64.Decimal
import FeatureScan.Text.Digits

/-!
Reading JSON text. A reader takes characters from the front of the input and says what is
left, or what is wrong and how far it has come. Reading stops at the first fault from the
left, so of two faults the earlier one is told.
-/

namespace FeatureScan
namespace Json

inductive Cause where
  | endInList
  | endInObject
  | endInText
  | endInValue
  | expectedColon
  | expectedListSeparator
  | expectedObjectSeparator
  | expectedKeyword
  | expectedValue
  | invalidEscape
  | invalidNumber
  | numberOutOfRange
  | controlCharacter
  | memberNameNotText
  | loneSurrogate
  | unpairedSurrogate
  | trailingComma
  | trailingCharacters
  | tooDeep
  /-- The text is well-formed so far but not what is asked for. Of an unreadable moment
  no more is said. -/
  | unsuitable (message : Option String)
  deriving Repr, DecidableEq

inductive CauseClass where
  | truncated
  | malformed
  | unsuitable
  deriving Repr, DecidableEq

namespace Cause

def causeClass : Cause → CauseClass
  | .endInList | .endInObject | .endInText | .endInValue => .truncated
  | .unsuitable _ => .unsuitable
  | _ => .malformed

def message : Cause → String
  | .endInList => "EOF while parsing a list"
  | .endInObject => "EOF while parsing an object"
  | .endInText => "EOF while parsing a string"
  | .endInValue => "EOF while parsing a value"
  | .expectedColon => "expected \u0060:\u0060"
  | .expectedListSeparator => "expected \u0060,\u0060 or \u0060]\u0060"
  | .expectedObjectSeparator => "expected \u0060,\u0060 or \u0060\x7d\u0060"
  | .expectedKeyword => "expected ident"
  | .expectedValue => "expected value"
  | .invalidEscape => "invalid escape"
  | .invalidNumber => "invalid number"
  | .numberOutOfRange => "number out of range"
  | .controlCharacter =>
      "control character (\\u0000-\\u001F) found while parsing a string"
  | .memberNameNotText => "key must be a string"
  | .loneSurrogate => "lone leading surrogate in hex escape"
  | .unpairedSurrogate => "unexpected end of hex escape"
  | .trailingComma => "trailing comma"
  | .trailingCharacters => "trailing characters"
  | .tooDeep => "recursion limit exceeded"
  | .unsuitable message => message.getD "unsuitable value"

end Cause

/-- A cause and the place where it was noticed: the characters left there. A fault seen
without taking the character is placed on it, any other fault before it. -/
structure Problem where
  cause : Cause
  left : Nat
  onNext : Bool
  deriving Repr, DecidableEq

namespace Problem

/-- Line and column of the place in the text, counted in bytes of UTF-8. -/
def position (p : Problem) (input : List Char) : Nat × Nat :=
  let taken := input.length - p.left
  let passed := input.take taken
  let next := if p.onNext then (input.drop taken).head? else none
  let step := fun ((line, column) : Nat × Nat) (c : Char) (bytes : Nat) =>
    if c = '\n' then (line + 1, 0) else (line, column + bytes)
  let here := passed.foldl (fun at_ c => step at_ c c.utf8Size) (1, 0)
  match next with
  | some c => step here c 1
  | none => here

def describe (p : Problem) (input : List Char) : String :=
  let (line, column) := p.position input
  p.cause.message ++ " at line " ++ toString line ++ " column " ++ toString column

end Problem

def failAt {α : Type} (cause : Cause) (left : List Char) : Except Problem α :=
  .error ⟨cause, left.length, false⟩

def failOn {α : Type} (cause : Cause) (left : List Char) : Except Problem α :=
  .error ⟨cause, left.length, true⟩

def isSpace (c : Char) : Bool := c == ' ' || c == '\n' || c == '\t' || c == '\r'

def skipSpace (input : List Char) : List Char := input.dropWhile isSpace

/-- Takes the rest of a keyword whose first letter has been taken. -/
def readKeyword : List Char → List Char → Except Problem (Unit × List Char)
  | [], input => .ok ((), input)
  | _ :: _, [] => failAt .endInValue []
  | k :: word, c :: rest => if c = k then readKeyword word rest else failAt .expectedKeyword rest

def readFourHex : List Char → Except Problem (Nat × List Char)
  | a :: b :: c :: d :: rest =>
      match Text.hexDigit? a, Text.hexDigit? b, Text.hexDigit? c, Text.hexDigit? d with
      | some a, some b, some c, some d => .ok (((a * 16 + b) * 16 + c) * 16 + d, rest)
      | _, _, _, _ => failAt .invalidEscape rest
  | _ => failAt .endInText []

/-- The character of an escape by code, after `\u`. Codes of surrogates come in pairs. -/
def readCode (input : List Char) : Except Problem (Char × List Char) := do
  let (n, rest) ← readFourHex input
  if 0xdc00 ≤ n ∧ n ≤ 0xdfff then failAt .loneSurrogate rest
  else if n < 0xd800 ∨ 0xdbff < n then .ok (Char.ofNat n, rest)
  else
    match rest with
    | [] => failAt .endInText []
    | '\\' :: [] => failAt .endInText []
    | '\\' :: 'u' :: rest => do
        let (n2, rest) ← readFourHex rest
        if n2 < 0xdc00 ∨ 0xdfff < n2 then failAt .loneSurrogate rest
        else .ok (Char.ofNat ((n - 0xd800) * 0x400 + (n2 - 0xdc00) + 0x10000), rest)
    | '\\' :: _ :: rest => failAt .unpairedSurrogate rest
    | _ :: rest => failAt .unpairedSurrogate rest

/-- The character of an escape, after the backslash. -/
def readEscape : List Char → Except Problem (Char × List Char)
  | [] => failAt .endInText []
  | '"' :: rest => .ok ('"', rest)
  | '\\' :: rest => .ok ('\\', rest)
  | '/' :: rest => .ok ('/', rest)
  | 'b' :: rest => .ok ('\x08', rest)
  | 'f' :: rest => .ok ('\x0c', rest)
  | 'n' :: rest => .ok ('\n', rest)
  | 'r' :: rest => .ok ('\r', rest)
  | 't' :: rest => .ok ('\t', rest)
  | 'u' :: rest => readCode rest
  | _ :: rest => failAt .invalidEscape rest

/-- The rest of a text after its opening quote; `taken` is what has been read, last
character first. -/
def readTextFrom : Nat → List Char → List Char → Except Problem (String × List Char)
  | 0, _, input => failAt .endInText input
  | fuel + 1, taken, input =>
      match input with
      | [] => failAt .endInText []
      | '"' :: rest => .ok (String.ofList taken.reverse, rest)
      | '\\' :: rest => do
          let (c, rest) ← readEscape rest
          readTextFrom fuel (c :: taken) rest
      | c :: rest =>
          if c.toNat < 32 then failAt .controlCharacter rest
          else readTextFrom fuel (c :: taken) rest

def readText (input : List Char) : Except Problem (String × List Char) :=
  readTextFrom (input.length + 1) [] input

def digitsOf (input : List Char) : List Char := input.takeWhile Char.isDigit

def greatestWhole : Nat := 0xffffffffffffffff

/-- How many of the digits, appended to `n`, keep the number within 64 bits. -/
def fitting (n : Nat) : List Char → Nat × Nat
  | [] => (n, 0)
  | c :: rest =>
      let more := 10 * n + Text.digitValue c
      if greatestWhole < more then (n, 0)
      else
        let (m, k) := fitting more rest
        (m, k + 1)

/-- The floating-point number with these parts, the rest of the input being known. -/
def realOf (negative : Bool) (significand : Nat) (exponent : Int) (rest : List Char) :
    Except Problem (Number × List Char) :=
  match Binary64.ofDecimal? negative significand exponent with
  | some x => .ok (.real x, rest)
  | none => failAt .numberOutOfRange rest

/-- The exponent of a number, after its `e`. An exponent beyond 32 bits makes the number
zero or too large. -/
def readExponent (negative : Bool) (significand : Nat) (exponent : Int) (input : List Char) :
    Except Problem (Number × List Char) :=
  let (down, input) := match input with
    | '+' :: rest => (false, rest)
    | '-' :: rest => (true, rest)
    | _ => (false, input)
  match input with
  | [] => failAt .endInValue []
  | c :: rest =>
      if !c.isDigit then failAt .invalidNumber rest
      else
        let n := Text.decimalValue (digitsOf input)
        let rest := input.dropWhile Char.isDigit
        if 0x7fffffff < n then
          if significand ≠ 0 ∧ !down then failAt .numberOutOfRange rest
          else .ok (.real { Binary64.zero with negative }, rest)
        else
          realOf negative significand (if down then exponent - n else exponent + n) rest

/-- The places of a number, after its point. Digits that no longer fit into 64 bits are
passed over. -/
def readPlaces (negative : Bool) (significand : Nat) (exponent : Int) (input : List Char) :
    Except Problem (Number × List Char) :=
  match digitsOf input with
  | [] => match input with
      | [] => failOn .endInValue []
      | _ => failOn .invalidNumber input
  | digits =>
      let (significand, used) := fitting significand digits
      let rest := input.dropWhile Char.isDigit
      match rest with
      | 'e' :: rest | 'E' :: rest => readExponent negative significand (exponent - used) rest
      | _ => realOf negative significand (exponent - used) rest

/-- A number, after its minus sign if it has one. -/
def readNumber (negative : Bool) (input : List Char) : Except Problem (Number × List Char) :=
  match input with
  | [] => failAt .endInValue []
  | c :: rest =>
      if !c.isDigit then failAt .invalidNumber rest
      else if c = '0' ∧ (rest.head?.any Char.isDigit) then failOn .invalidNumber rest
      else
        let digits := digitsOf input
        let rest := input.dropWhile Char.isDigit
        let (n, used) := fitting 0 digits
        let dropped := digits.length - used
        match rest with
        | '.' :: rest => readPlaces negative n dropped rest
        | 'e' :: rest | 'E' :: rest => readExponent negative n dropped rest
        | _ =>
            if dropped ≠ 0 then realOf negative n dropped rest
            else if !negative then .ok (.nat n, rest)
            else if n = 0 ∨ 0x8000000000000000 < n then realOf true n 0 rest
            else .ok (.negSucc (n - 1), rest)

/-- A value that starts with one of the characters of a keyword, a number or a text. -/
def readScalar (c : Char) (rest : List Char) : Except Problem (Json × List Char) :=
  match c with
  | 'n' => (readKeyword ['u', 'l', 'l'] rest).map fun (_, rest) => (.null, rest)
  | 't' => (readKeyword ['r', 'u', 'e'] rest).map fun (_, rest) => (.bool true, rest)
  | 'f' => (readKeyword ['a', 'l', 's', 'e'] rest).map fun (_, rest) => (.bool false, rest)
  | '-' => (readNumber true rest).map fun (n, rest) => (.number n, rest)
  | '"' => (readText rest).map fun (s, rest) => (.text s, rest)
  | c =>
      if c.isDigit then (readNumber false (c :: rest)).map fun (n, rest) => (.number n, rest)
      else failOn .expectedValue (c :: rest)

def depthLimit : Nat := 127

def readColon (input : List Char) : Except Problem (Unit × List Char) :=
  match skipSpace input with
  | ':' :: rest => .ok ((), rest)
  | [] => failOn .endInObject []
  | input => failOn .expectedColon input

/-- Where the next item of a list stands: nothing at the closing bracket, which is left. -/
def nextItem (first : Bool) (input : List Char) : Except Problem (Option (List Char)) :=
  match skipSpace input with
  | [] => failOn .endInList []
  | ']' :: _ => .ok none
  | ',' :: rest =>
      if first then .ok (some (',' :: rest))
      else
        match skipSpace rest with
        | [] => failOn .endInValue []
        | ']' :: rest => failOn .trailingComma (']' :: rest)
        | rest => .ok (some rest)
  | input => if first then .ok (some input) else failOn .expectedListSeparator input

/-- Where the next member of an object stands, after the opening quote of its name:
nothing at the closing brace, which is left. -/
def nextMember (first : Bool) (input : List Char) : Except Problem (Option (List Char)) :=
  let name (input : List Char) : Except Problem (Option (List Char)) :=
    match input with
    | '"' :: rest => .ok (some rest)
    | _ => failOn .memberNameNotText input
  match skipSpace input with
  | [] => failOn .endInObject []
  | '\x7d' :: _ => .ok none
  | ',' :: rest =>
      if first then failOn .memberNameNotText (',' :: rest)
      else
        match skipSpace rest with
        | [] => failOn .endInValue []
        | '\x7d' :: rest => failOn .trailingComma ('\x7d' :: rest)
        | rest => name rest
  | input => if first then name input else failOn .expectedObjectSeparator input

mutual

/-- A value with at most `depth` levels of lists and objects. Of two members of an object
with one name the later one counts. -/
def readValue : Nat → Nat → List Char → Except Problem (Json × List Char)
  | 0, _, input => failOn .endInValue input
  | fuel + 1, depth, input =>
      match skipSpace input with
      | [] => failOn .endInValue []
      | '[' :: rest =>
          match depth with
          | 0 => failOn .tooDeep ('[' :: rest)
          | depth + 1 => (readItems fuel depth true [] rest).map fun (v, rest) => (.list v, rest)
      | '\x7b' :: rest =>
          match depth with
          | 0 => failOn .tooDeep ('\x7b' :: rest)
          | depth + 1 =>
              (readMembers fuel depth true [] rest).map fun (v, rest) => (.object v, rest)
      | c :: rest => readScalar c rest

def readItems : Nat → Nat → Bool → List Json → List Char → Except Problem (List Json × List Char)
  | 0, _, _, _, input => failOn .endInList input
  | fuel + 1, depth, first, items, input => do
      match ← nextItem first input with
      | none => .ok (items.reverse, (skipSpace input).drop 1)
      | some input =>
          let (item, rest) ← readValue fuel depth input
          readItems fuel depth false (item :: items) rest

/-- The members of an object up to its closing brace, in the order of their names. -/
def readMembers :
    Nat → Nat → Bool → List (String × Json) → List Char →
      Except Problem (List (String × Json) × List Char)
  | 0, _, _, _, input => failOn .endInObject input
  | fuel + 1, depth, first, members, input => do
      match ← nextMember first input with
      | none => .ok (members, (skipSpace input).drop 1)
      | some input =>
          let (name, rest) ← readText input
          let (_, rest) ← readColon rest
          let (value, rest) ← readValue fuel depth rest
          readMembers fuel depth false (insertEntry name value members) rest

end

/-- Nothing but blanks may follow a document. -/
def readEnd {α : Type} (outcome : Except Problem (α × List Char)) : Except Problem α := do
  let (v, rest) ← outcome
  match skipSpace rest with
  | [] => .ok v
  | rest => failOn .trailingCharacters rest

def read (input : List Char) : Except Problem Json :=
  readEnd (readValue (2 * input.length + 2) depthLimit input)

end Json
end FeatureScan
