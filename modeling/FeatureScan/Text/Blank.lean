/-!
Blank characters and line breaks. Blank means the Unicode property White_Space, which
holds of twenty-five characters; a zero-width space or a byte-order mark is not blank.
-/

namespace FeatureScan
namespace Text

def isBlank (c : Char) : Bool :=
  let n := c.toNat
  (9 ≤ n && n ≤ 13) || n == 0x20 || n == 0x85 || n == 0xa0 || n == 0x1680 ||
    (0x2000 ≤ n && n ≤ 0x200a) || n == 0x2028 || n == 0x2029 || n == 0x202f ||
    n == 0x205f || n == 0x3000

/-- The characters that end a line of a snippet: line feed, carriage return, line
separator and paragraph separator. -/
def isLineBreak (c : Char) : Bool :=
  c == '\n' || c == '\r' || c == '\u2028' || c == '\u2029'

/-- Whether nothing but blanks is there. The empty text is all blank. -/
def allBlank (s : String) : Bool :=
  s.toList.all isBlank

/-- The characters without the blanks at the end. -/
def dropLastBlanks (s : List Char) : List Char := (s.reverse.dropWhile isBlank).reverse

/-- The text without the blanks at its end. -/
def trimEnd (s : String) : String := String.ofList (dropLastBlanks s.toList)

/-- The text without the blanks at its two ends. -/
def trim (s : String) : String := String.ofList (dropLastBlanks (s.toList.dropWhile isBlank))

end Text
end FeatureScan
