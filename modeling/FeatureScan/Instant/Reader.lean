import FeatureScan.Instant
import FeatureScan.Text.Blank
import FeatureScan.Text.Digits

/-!
Reading a date and time with an offset from universal time. The reader is lenient: parts
need no leading zeros, blanks may stand around the separators, the colon of the offset may
be missing, and a year of other than four digits may have a sign in front.
-/

namespace FeatureScan
namespace Instant

def skipBlank (input : List Char) : List Char := input.dropWhile Text.isBlank

/-- A number of one to `width` digits. -/
def readNumber (width : Nat) (input : List Char) : Option (Nat × List Char) :=
  let digits := (input.take width).takeWhile Char.isDigit
  if digits.isEmpty then none
  else
    some (Text.decimalValue digits, input.drop digits.length)

/-- A number between two bounds, of at most two digits and with blanks in front. -/
def readPart (least most : Nat) (input : List Char) : Option (Nat × List Char) := do
  let (n, rest) ← readNumber 2 (skipBlank input)
  if least ≤ n ∧ n ≤ most then some (n, rest) else none

/-- A separator with blanks in front. -/
def readMark (mark : Char) (input : List Char) : Option (List Char) :=
  match skipBlank input with
  | c :: rest => if c = mark then some rest else none
  | [] => none

/-- A year: at most four digits, or a sign and any number of digits. -/
def readYear (input : List Char) : Option (Int × List Char) :=
  match skipBlank input with
  | '-' :: rest => (readNumber rest.length rest).map fun (n, rest) => (-(n : Int), rest)
  | '+' :: rest => (readNumber rest.length rest).map fun (n, rest) => ((n : Int), rest)
  | input => (readNumber 4 input).map fun (n, rest) => ((n : Int), rest)

def readDate (input : List Char) : Option (Date × List Char) := do
  let (year, rest) ← readYear input
  let (month, rest) ← readPart 1 12 (← readMark '-' rest)
  let (day, rest) ← readPart 1 31 (← readMark '-' rest)
  let d : Date := ⟨year, month, day⟩
  if d.Valid then some (d, rest) else none

/-- The nanoseconds after the point, if there is one. Digits after the ninth are passed
over. -/
def readFraction (input : List Char) : Option (Nat × List Char) :=
  match input with
  | '.' :: rest => do
      let (n, after) ← readNumber 9 rest
      let used := rest.length - after.length
      some (n * Nat.pow 10 (9 - used), after.dropWhile Char.isDigit)
  | _ => some (0, input)

/-- The second of the day and the nanoseconds. Second 60 is a leap second. -/
def readClock (input : List Char) : Option ((Nat × Nat) × List Char) := do
  let (hour, rest) ← readPart 0 23 input
  let (minute, rest) ← readPart 0 59 (← readMark ':' rest)
  let (second, rest) ← readPart 0 60 (← readMark ':' rest)
  let (nanos, rest) ← readFraction rest
  let whole := hour * 3600 + minute * 60 + min second 59
  some ((whole, nanos + if second = 60 then nanosPerSecond else 0), rest)

/-- Two digits. -/
def readPair (most : Nat) (input : List Char) : Option (Nat × List Char) :=
  match input with
  | a :: b :: rest =>
      if a.isDigit ∧ b.isDigit then
        let n := Text.decimalValue [a, b]
        if n ≤ most then some (n, rest) else none
      else none
  | _ => none

/-- The offset in seconds: a letter for none, the name of universal time, or a sign with
hours and minutes. -/
def readOffset (input : List Char) : Option (Int × List Char) :=
  let signed (sign : Int) (input : List Char) : Option (Int × List Char) := do
    let (hours, rest) ← readPair 99 input
    let rest := rest.dropWhile fun c => c == ':' || Text.isBlank c
    let (minutes, rest) ← readPair 59 rest
    if hours < 24 then some (sign * (hours * 3600 + minutes * 60), rest) else none
  match input with
  | 'Z' :: rest | 'z' :: rest => some (0, rest)
  | '+' :: rest => signed 1 rest
  | '-' :: rest | '\u2212' :: rest => signed (-1) rest
  | u :: t :: c :: rest =>
      if u.toUpper = 'U' ∧ t.toUpper = 'T' ∧ c.toUpper = 'C' then some (0, rest) else none
  | _ => none

/-- Whether the year of the instant can be named. -/
def inRange (t : Instant) : Bool := leastYear ≤ t.date.year && t.date.year ≤ greatestYear

/-- The instant that a text names. Date and time are joined by a letter or a space. -/
def read? (s : String) : Option Instant := do
  let (date, rest) ← readDate s.toList
  let rest ← match rest with
    | 'T' :: rest | 't' :: rest | ' ' :: rest => some rest
    | _ => none
  let ((second, nanos), rest) ← readClock rest
  let (offset, rest) ← readOffset (skipBlank rest)
  let t : Instant := ⟨date.toDays * secondsPerDay + second - offset, nanos⟩
  let named := leastYear ≤ date.year && date.year ≤ greatestYear
  if (skipBlank rest).isEmpty ∧ named ∧ t.inRange then some t else none

end Instant
end FeatureScan
