import FeatureScan.Text.CaseTable
import FeatureScan.Text.Intervals

/-!
Upper and lower case of whole texts. A character may have a form of several characters,
and a capital sigma becomes a final one at the end of a word.
-/

namespace FeatureScan
namespace Text

/-- The character that a list of runs maps `n` to. -/
def shifted? (n : Nat) (runs : List ShiftRun) : Option Char :=
  (runs.find? fun r => r.first ≤ n && n ≤ r.last && (n - r.first) % r.stride == 0).map
    fun r => Char.ofNat ((n : Int) + r.shift).toNat

def lowerChar (c : Char) : List Char :=
  if c.toNat < 128 then [c.toLower]
  else if c = '\u0130' then ['i', '\u0307']
  else [(shifted? c.toNat lowerRuns).getD c]

def upperChar (c : Char) : List Char :=
  if c.toNat < 128 then [c.toUpper]
  else
    match upperExpansions.find? fun e => e.1 == c.toNat with
    | some (_, codes) => codes.map Char.ofNat
    | none => [(shifted? c.toNat upperRuns).getD c]

def isCased (c : Char) : Bool := inIntervals c.toNat casedIntervals

def isCaseIgnorable (c : Char) : Bool := inIntervals c.toNat caseIgnorableIntervals

/-- Whether a character with a case comes first when ignorable ones are passed over. -/
def startsCased (s : List Char) : Bool := (s.dropWhile isCaseIgnorable).head?.any isCased

/-- Lower case of a text, given what stands before it, last character first. -/
def lowerAfter : List Char → List Char → List Char
  | _, [] => []
  | before, c :: rest =>
      let form :=
        if c = '\u03a3' then
          if startsCased before && !startsCased rest then ['\u03c2'] else ['\u03c3']
        else lowerChar c
      form ++ lowerAfter (c :: before) rest

def lower (s : String) : String := String.ofList (lowerAfter [] s.toList)

/-- The text with its first character in upper case. -/
def capitalized : List Char → List Char
  | [] => []
  | c :: rest => upperChar c ++ rest

end Text
end FeatureScan
