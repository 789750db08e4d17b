import FeatureScan.Json.Reader

/-!
Passing over a value that nobody asked for. Only its form is checked: a number may be out
of range, surrogates may stand alone, and there is no limit to the depth.
-/

namespace FeatureScan
namespace Json

/-- At least one digit, then whatever `next` does. -/
def skipDigits (input : List Char) : Except Problem (Unit × List Char) :=
  match input with
  | c :: _ =>
      if c.isDigit then .ok ((), input.dropWhile Char.isDigit) else failOn .invalidNumber input
  | [] => failOn .invalidNumber []

/-- The exponent of a number, after its `e`. -/
def skipExponent (input : List Char) : Except Problem (Unit × List Char) :=
  match input with
  | '+' :: rest | '-' :: rest => skipDigits rest
  | _ => skipDigits input

/-- A number, after its minus sign if it has one. -/
def skipNumber (input : List Char) : Except Problem (Unit × List Char) := do
  let (_, rest) ← skipDigits input
  if input.head? = some '0' ∧ (input.drop 1).head?.any Char.isDigit then
    failOn .invalidNumber (input.drop 1)
  else
    match rest with
    | '.' :: rest => do
        let (_, rest) ← skipDigits rest
        match rest with
        | 'e' :: rest | 'E' :: rest => skipExponent rest
        | _ => .ok ((), rest)
    | 'e' :: rest | 'E' :: rest => skipExponent rest
    | _ => .ok ((), rest)

/-- The rest of a text after its opening quote. -/
def skipText : Nat → List Char → Except Problem (Unit × List Char)
  | 0, input => failAt .endInText input
  | fuel + 1, input =>
      match input with
      | [] => failAt .endInText []
      | '"' :: rest => .ok ((), rest)
      | '\\' :: 'u' :: rest => do
          let (_, rest) ← readFourHex rest
          skipText fuel rest
      | '\\' :: rest => do
          let (_, rest) ← readEscape rest
          skipText fuel rest
      | c :: rest =>
          if c.toNat < 32 then failOn .controlCharacter (c :: rest) else skipText fuel rest

/-- The name of a member and its colon. -/
def skipName (input : List Char) : Except Problem (Unit × List Char) :=
  match skipSpace input with
  | [] => failOn .endInObject []
  | '"' :: rest => do
      let (_, rest) ← skipText (rest.length + 1) rest
      readColon rest
  | input => failOn .memberNameNotText input

mutual

def skipValue : Nat → List Char → Except Problem (Unit × List Char)
  | 0, input => failOn .endInValue input
  | fuel + 1, input =>
      match skipSpace input with
      | [] => failOn .endInValue []
      | '[' :: rest => skipItems fuel true rest
      | '\x7b' :: rest => skipMembers fuel true rest
      | 'n' :: rest => readKeyword ['u', 'l', 'l'] rest
      | 't' :: rest => readKeyword ['r', 'u', 'e'] rest
      | 'f' :: rest => readKeyword ['a', 'l', 's', 'e'] rest
      | '-' :: rest => skipNumber rest
      | '"' :: rest => skipText (rest.length + 1) rest
      | c :: rest => if c.isDigit then skipNumber (c :: rest) else failOn .expectedValue (c :: rest)

def skipItems : Nat → Bool → List Char → Except Problem (Unit × List Char)
  | 0, _, input => failOn .endInList input
  | fuel + 1, first, input =>
      match skipSpace input with
      | [] => failOn .endInList []
      | ']' :: rest => .ok ((), rest)
      | ',' :: rest =>
          if first then failOn .expectedValue (',' :: rest)
          else do
            let (_, rest) ← skipValue fuel rest
            skipItems fuel false rest
      | input =>
          if first then do
            let (_, rest) ← skipValue fuel input
            skipItems fuel false rest
          else failOn .expectedListSeparator input

def skipMembers : Nat → Bool → List Char → Except Problem (Unit × List Char)
  | 0, _, input => failOn .endInObject input
  | fuel + 1, first, input =>
      match skipSpace input with
      | [] => failOn .endInObject []
      | '\x7d' :: rest => .ok ((), rest)
      | ',' :: rest =>
          if first then failOn .memberNameNotText (',' :: rest)
          else do
            let (_, rest) ← skipName rest
            let (_, rest) ← skipValue fuel rest
            skipMembers fuel false rest
      | input =>
          if first then do
            let (_, rest) ← skipName input
            let (_, rest) ← skipValue fuel rest
            skipMembers fuel false rest
          else failOn .expectedObjectSeparator input

end

end Json
end FeatureScan
