import FeatureScan.Json.Value
import FeatureScan.Binary64.Decimal

/-!
Writing JSON, either without any blanks or laid out with one member or item a line and
two spaces for each level.
-/

namespace FeatureScan
namespace Json

def hexDigit (n : Nat) : Char := (Nat.toDigits 16 (n % 16)).headD '0'

/-- A character inside a written text. Only quotes, backslashes and the controls below
the space are escaped. -/
def escapeChar (c : Char) : List Char :=
  match c with
  | '"' => ['\\', '"']
  | '\\' => ['\\', '\\']
  | '\x08' => ['\\', 'b']
  | '\x0c' => ['\\', 'f']
  | '\n' => ['\\', 'n']
  | '\r' => ['\\', 'r']
  | '\t' => ['\\', 't']
  | c =>
      if c.toNat < 32 then ['\\', 'u', '0', '0', hexDigit (c.toNat / 16), hexDigit c.toNat]
      else [c]

def writeText (s : String) : List Char := '"' :: s.toList.flatMap escapeChar ++ ['"']

def Number.write : Number → List Char
  | .nat n => Nat.toDigits 10 n
  | .negSucc n => '-' :: Nat.toDigits 10 (n + 1)
  | .real x => x.toText.toList

/-- Where the parts of a list or an object go. -/
inductive Layout where
  | compact
  /-- Each part on a line of its own, at the given level. -/
  | lines (level : Nat)
  deriving Repr, DecidableEq

namespace Layout

def inner : Layout → Layout
  | .compact => .compact
  | .lines level => .lines (level + 1)

/-- What stands before a part, and before the closing bracket one level further out. -/
def lineBreak : Layout → List Char
  | .compact => []
  | .lines level => '\n' :: List.replicate (2 * level) ' '

def colon : Layout → List Char
  | .compact => [':']
  | .lines _ => [':', ' ']

end Layout

mutual

def write (layout : Layout) : Json → List Char
  | .null => ['n', 'u', 'l', 'l']
  | .bool true => ['t', 'r', 'u', 'e']
  | .bool false => ['f', 'a', 'l', 's', 'e']
  | .number n => n.write
  | .text s => writeText s
  | .list [] => ['[', ']']
  | .list (item :: rest) =>
      '[' :: layout.inner.lineBreak ++ write layout.inner item ++ writeItems layout.inner rest ++
        layout.lineBreak ++ [']']
  | .object [] => ['\x7b', '\x7d']
  | .object (m :: rest) =>
      '\x7b' :: layout.inner.lineBreak ++ writeMember layout.inner m ++
        writeMembers layout.inner rest ++ layout.lineBreak ++ ['\x7d']

/-- The items after the first one. -/
def writeItems (layout : Layout) : List Json → List Char
  | [] => []
  | item :: rest => ',' :: layout.lineBreak ++ write layout item ++ writeItems layout rest

def writeMember (layout : Layout) : String × Json → List Char
  | (name, value) => writeText name ++ layout.colon ++ write layout value

/-- The members after the first one. -/
def writeMembers (layout : Layout) : List (String × Json) → List Char
  | [] => []
  | m :: rest => ',' :: layout.lineBreak ++ writeMember layout m ++ writeMembers layout rest

end

def compact (v : Json) : String := String.ofList (v.write .compact)

def pretty (v : Json) : String := String.ofList (v.write (.lines 0))

end Json
end FeatureScan
