import FeatureScan.Text.Blank

/-!
Pieces of texts: splitting at marks, words on one line, and texts within others.
-/

namespace FeatureScan
namespace Text

/-- Splits at each character that `isMark` accepts. There is one piece more than there
are marks, so a piece may be empty. -/
def pieces (isMark : Char → Bool) : List Char → List (List Char)
  | [] => [[]]
  | c :: rest =>
      match pieces isMark rest with
      | [] => [[c]]
      | piece :: others =>
          if isMark c then [] :: piece :: others else (c :: piece) :: others

/-- The words between blanks, joined by one space each, so that the result stays on
one line. -/
def singleLine (s : String) : String :=
  String.ofList ((((pieces isBlank s.toList).filter (· ≠ [])).intersperse [' ']).flatten)

/-- Whether `needle` occurs in `hay` as it stands. -/
def occursIn (needle : List Char) : List Char → Bool
  | [] => needle.isEmpty
  | c :: rest => needle.isPrefixOf (c :: rest) || occursIn needle rest

/-- Whether the text begins with `start`. -/
def startsWith (start text : String) : Bool := start.toList.isPrefixOf text.toList

end Text
end FeatureScan
