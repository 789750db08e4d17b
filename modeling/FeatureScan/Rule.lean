import FeatureScan.Pattern.Reader
import FeatureScan.Pattern.Reach
import FeatureScan.Pattern.Search

/-!
Detection rules. A plain rule matches where its pattern does. A guarded rule counts a
match only if a certain word does not follow on the rest of the line; a match that spans
a line break may instead be cut short right before it.
-/

namespace FeatureScan

/-- A rule as it is written down. -/
inductive RuleText where
  | anywhere (pattern : String)
  | unlessLineHolds (pattern rejected : String)
  deriving Repr, DecidableEq

/-- An identifier with its rules, as it is written down. -/
abbrev Entry := String × List RuleText

/-- An entry whose rules are all plain. -/
def feature (id : String) (patterns : List String) : Entry :=
  (id, patterns.map .anywhere)

inductive Rule where
  | anywhere (pattern : Pattern.Regex)
  | guarded (pattern rejected : Pattern.Regex)
  deriving Repr, DecidableEq

namespace RuleText

def pattern : RuleText → String
  | .anywhere p => p
  | .unlessLineHolds p _ => p

/-- The texts that are read for the rule, in this order. The rejected word is no pattern: its
characters stand for themselves. -/
def patterns (reader : Pattern.Reader) : RuleText → List String
  | .anywhere p => [p]
  | .unlessLineHolds p word => [p, reader.escape word]

/-- The rule, if its patterns can be read. -/
def compile? (reader : Pattern.Reader) : RuleText → Option Rule
  | .anywhere p => (reader.read? p).map .anywhere
  | .unlessLineHolds p word => do
      return .guarded (← reader.read? p) (← reader.read? (reader.escape word))

end RuleText

namespace LineGuard

open Pattern

/-- The position of the first line break at `i` or later, or the end of the text. -/
def lineEnd (text : Array Char) (i : Nat) : Nat :=
  match (text.extract i text.size).findIdx? Text.isLineBreak with
  | some k => i + k
  | none => text.size

/-- The text up to a position, as if it ended there. -/
def upTo (text : Array Char) (i : Nat) : Array Char := text.extract 0 i

/-- Whether the match could end right before one of the line breaks in it, which leaves
nothing of the line. -/
def canEndAtBreak (pattern : Regex) (text : Array Char) (m : Nat × Nat) : Bool :=
  (List.range' m.1 (m.2 - m.1)).any fun b =>
    text[b]?.any Text.isLineBreak && pattern.matchAt (upTo text b) m.1 == some (m.1, b)

/-- What is known about the line of the last match: its end, and where the last rejected
word starts on it. -/
structure Line where
  stop : Nat
  lastRejected : Option Nat
  deriving Repr, DecidableEq

def Line.ofPosition (rejected : Regex) (text : Array Char) (i : Nat) : Line :=
  let stop := lineEnd text i
  ⟨stop, rejected.lastStart (upTo text stop) i⟩

/-- Whether one of the matches passes. Each line is searched for the rejected word only
once, from the first match that ends on it. -/
def anyPasses (pattern rejected : Regex) (text : Array Char) :
    Option Line → List (Nat × Nat) → Bool
  | _, [] => false
  | known, m :: rest =>
      if canEndAtBreak pattern text m then true
      else
        let line := match known with
          | some line => if m.2 ≤ line.stop then line else .ofPosition rejected text m.2
          | none => .ofPosition rejected text m.2
        if line.lastRejected.all (· < m.2) then true
        else anyPasses pattern rejected text (some line) rest

end LineGuard

namespace Rule

def isMatch (h : Pattern.Haystack) : Rule → Bool
  | .anywhere p => p.isMatch h
  | .guarded p rejected =>
      LineGuard.anyPasses p rejected h.chars none (p.findAll h.chars)

end Rule
end FeatureScan
