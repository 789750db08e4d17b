import FeatureScan.Pattern.Search
import FeatureScan.Text.Utf8

/-!
The search for the last start by bytes. A stored text is a row of bytes, and a position in it is
told by the number of bytes before it. Between the bytes of a character there is no position, so
the text cannot be cut there, and no search can begin beyond its end.
-/

namespace FeatureScan
namespace Pattern

/-- What ends a search by bytes without an answer. -/
inductive SearchStop where
  /-- The text ends before the offset. -/
  | beyondEnd
  /-- The offset lies between the bytes of a character. -/
  | insideCharacter
  | outOfRounds
  deriving Repr, DecidableEq

/-- The number of bytes before a position. -/
def offset (text : List Char) (i : Nat) : Nat := (Text.encodeUtf8 (text.take i)).length

/-- The text from an offset on. -/
def cutAt : List Char → Nat → Except SearchStop (List Char)
  | text, 0 => .ok text
  | [], _ + 1 => .error .beyondEnd
  | c :: rest, n + 1 =>
      if n + 1 < c.utf8Size then .error .insideCharacter else cutAt rest (n + 1 - c.utf8Size)

/-- The first position at an offset or behind it. -/
def positionFrom : List Char → Nat → Nat
  | [], _ | _, 0 => 0
  | c :: rest, n + 1 => positionFrom rest (n + 1 - c.utf8Size) + 1

namespace Regex

/-- The leftmost match that starts at an offset or behind it. -/
def findFromByte (r : Regex) (text : List Char) (n : Nat) :
    Except SearchStop (Option (Nat × Nat)) :=
  if n ≤ offset text text.length then
    .ok ((r.findFrom text.toArray (positionFrom text n)).map fun m =>
      (offset text m.1, offset text m.2))
  else .error .beyondEnd

/-- The start of the last match at an offset or behind it, searched for in rounds. After each
match the search goes on behind the character at the start of the match, or one byte beyond the end
if the text has no character there. -/
def lastStartByByte (r : Regex) (text : List Char) :
    Nat → Nat → Option Nat → Except SearchStop (Option Nat)
  | 0, _, _ => .error .outOfRounds
  | rounds + 1, n, last =>
      if n ≤ offset text text.length then do
        match ← r.findFromByte text n with
        | none => .ok last
        | some (s, _) =>
            let rest ← cutAt text s
            lastStartByByte r text rounds (s + rest.head?.elim 1 Char.utf8Size) (some s)
      else .ok last

end Regex
end Pattern
end FeatureScan
