import FeatureScan.Text.EscapeTable
import FeatureScan.Text.Intervals

/-!
Texts quoted for a message: in double quotes, with an escape for a quote, a backslash and
every character that would not be seen as it is.
-/

namespace FeatureScan
namespace Text

/-- Whether a quoted text shows the character by its code. -/
def shownByCode (c : Char) : Bool :=
  if c.toNat < 128 then c.toNat < 32 || c.toNat == 127 else inIntervals c.toNat escapedIntervals

def quoteChar (c : Char) : List Char :=
  match c with
  | '\x00' => ['\\', '0']
  | '\t' => ['\\', 't']
  | '\n' => ['\\', 'n']
  | '\r' => ['\\', 'r']
  | '"' => ['\\', '"']
  | '\\' => ['\\', '\\']
  | c =>
      if shownByCode c then '\\' :: 'u' :: '\x7b' :: Nat.toDigits 16 c.toNat ++ ['\x7d']
      else [c]

def quoted (s : String) : String :=
  String.ofList ('"' :: s.toList.flatMap quoteChar ++ ['"'])

end Text
end FeatureScan
