import FeatureScan.Json.Reader

/-!
The grammar of JSON, apart from any reader: which text spells which document. A document keeps
what the text says and no more: its numbers in their digits, the members of an object in their
order and with all repetitions. What a reader sets limits to is left open here.
-/

namespace FeatureScan
namespace Json

/-- Blanks between the parts of a text. -/
def Blank (s : List Char) : Prop := ∀ c ∈ s, isSpace c = true

/-- A number in its digits. Without a point there are no places. -/
structure Numeral where
  negative : Bool
  whole : List Char
  places : List Char
  /-- The digits after the `e`, and whether they count downwards. -/
  exponent : Option (Bool × List Char)

def Digits (s : List Char) : Prop := s ≠ [] ∧ ∀ c ∈ s, c.isDigit = true

inductive Fraction : List Char → List Char → Prop
  | none : Fraction [] []
  | point {digits} (places : Digits digits) : Fraction digits ('.' :: digits)

inductive Sign : Bool → List Char → Prop
  | none : Sign false []
  | plus : Sign false ['+']
  | minus : Sign true ['-']

inductive Exponent : Option (Bool × List Char) → List Char → Prop
  | none : Exponent none []
  | given {down sign digits} (mark : Char) (marks : mark = 'e' ∨ mark = 'E')
      (signed : Sign down sign) (counted : Digits digits) :
      Exponent (some (down, digits)) (mark :: (sign ++ digits))

namespace Numeral

/-- The number without its minus sign. A zero in front stands alone. -/
inductive Unsigned (n : Numeral) : List Char → Prop
  | parts {fraction exponent} (whole : Digits n.whole)
      (lone : n.whole.head? = some '0' → n.whole = ['0']) (places : Fraction n.places fraction)
      (power : Exponent n.exponent exponent) : Unsigned n (n.whole ++ (fraction ++ exponent))

inductive Spelled (n : Numeral) : List Char → Prop
  | plain {s} (positive : n.negative = false) (rest : Unsigned n s) : Spelled n s
  | minus {s} (negative : n.negative = true) (rest : Unsigned n s) : Spelled n ('-' :: s)

end Numeral

/-- A character of a text, or one half of a surrogate pair. -/
inductive Mark where
  | char (c : Char)
  | half (n : Nat)

namespace Mark

/-- What an escape by code stands for. -/
def ofCode (n : Nat) : Mark := if 0xd800 ≤ n ∧ n ≤ 0xdfff then .half n else .char (Char.ofNat n)

/-- The characters of a text, if each half has its other half behind it. -/
def join? : List Mark → Option (List Char)
  | [] => some []
  | .char c :: rest => (join? rest).map (c :: ·)
  | .half high :: .half low :: rest =>
      if high < 0xdc00 ∧ 0xdc00 ≤ low then
        (join? rest).map (Char.ofNat ((high - 0xd800) * 0x400 + (low - 0xdc00) + 0x10000) :: ·)
      else none
  | .half _ :: _ => none

/-- The text, if its halves can be joined. -/
def text (marks : List Mark) : String := String.ofList ((join? marks).getD [])

/-- The escapes of one letter, and the characters that they stand for. -/
def letters : List (Char × Char) :=
  [('"', '"'), ('\\', '\\'), ('/', '/'), ('b', '\x08'), ('f', '\x0c'), ('n', '\n'), ('r', '\r'),
    ('t', '\t')]

end Mark

/-- The number that four hexadecimal digits write. -/
inductive FourHex : List Char → Nat → Prop
  | digits {a b c d i j k l} (first : Text.hexDigit? a = some i) (second : Text.hexDigit? b = some j)
      (third : Text.hexDigit? c = some k) (fourth : Text.hexDigit? d = some l) :
      FourHex [a, b, c, d] (((i * 16 + j) * 16 + k) * 16 + l)

/-- What stands between the quotes of a text. -/
inductive Characters : List Mark → List Char → Prop
  | nil : Characters [] []
  | plain {c marks s} (visible : 32 ≤ c.toNat) (noQuote : c ≠ '"') (noEscape : c ≠ '\\')
      (rest : Characters marks s) : Characters (.char c :: marks) (c :: s)
  | letter {e c marks s} (known : (e, c) ∈ Mark.letters) (rest : Characters marks s) :
      Characters (.char c :: marks) ('\\' :: e :: s)
  | code {digits n mark marks s} (four : FourHex digits n) (meant : Mark.ofCode n = mark)
      (rest : Characters marks s) : Characters (mark :: marks) ('\\' :: 'u' :: (digits ++ s))

inductive Document where
  | null
  | bool (b : Bool)
  | number (n : Numeral)
  | text (marks : List Mark)
  | list (items : List Document)
  | object (members : List (List Mark × Document))

/-- The parts of documents. Items and members are one or more, with commas between them. -/
inductive Phrase where
  | value (d : Document)
  | items (ds : List Document)
  | member (name : List Mark) (d : Document)
  | members (ms : List (List Mark × Document))

inductive Spells : Phrase → List Char → Prop
  | null : Spells (.value .null) ['n', 'u', 'l', 'l']
  | true : Spells (.value (.bool true)) ['t', 'r', 'u', 'e']
  | false : Spells (.value (.bool false)) ['f', 'a', 'l', 's', 'e']
  | number {n s} (spelled : n.Spelled s) : Spells (.value (.number n)) s
  | text {marks s} (spelled : Characters marks s) :
      Spells (.value (.text marks)) ('"' :: (s ++ ['"']))
  | emptyList {b} (blank : Blank b) : Spells (.value (.list [])) ('[' :: (b ++ [']']))
  | list {ds s} (items : Spells (.items ds) s) : Spells (.value (.list ds)) ('[' :: (s ++ [']']))
  | emptyObject {b} (blank : Blank b) : Spells (.value (.object [])) ('\x7b' :: (b ++ ['\x7d']))
  | object {ms s} (members : Spells (.members ms) s) :
      Spells (.value (.object ms)) ('\x7b' :: (s ++ ['\x7d']))
  | lastItem {d b s b'} (before : Blank b) (item : Spells (.value d) s) (after : Blank b') :
      Spells (.items [d]) (b ++ (s ++ b'))
  | item {d b s b' ds more} (before : Blank b) (item : Spells (.value d) s) (after : Blank b')
      (others : Spells (.items ds) more) : Spells (.items (d :: ds)) (b ++ (s ++ (b' ++ ',' :: more)))
  | member {name t b b' d s} (named : Characters name t) (before : Blank b) (after : Blank b')
      (value : Spells (.value d) s) :
      Spells (.member name d) ('"' :: (t ++ '"' :: (b ++ ':' :: (b' ++ s))))
  | lastMember {name d b s b'} (before : Blank b) (member : Spells (.member name d) s)
      (after : Blank b') : Spells (.members [(name, d)]) (b ++ (s ++ b'))
  | members {name d b s b' ms more} (before : Blank b) (member : Spells (.member name d) s)
      (after : Blank b') (others : Spells (.members ms) more) :
      Spells (.members ((name, d) :: ms)) (b ++ (s ++ (b' ++ ',' :: more)))

/-- The whole text spells the document. -/
inductive Document.SpelledBy (d : Document) : List Char → Prop
  | intro {b s b'} (before : Blank b) (value : Spells (.value d) s) (after : Blank b') :
      SpelledBy d (b ++ (s ++ b'))

/-- What a reader asks of the numbers and the texts of a document. -/
structure Limits where
  number : Numeral → Prop
  text : List Mark → Prop

/-- The document keeps to the limits and has at most so many levels of lists and objects. -/
inductive Document.Within (limits : Limits) : Nat → Document → Prop
  | null {depth} : Within limits depth .null
  | bool {depth b} : Within limits depth (.bool b)
  | number {depth n} (fits : limits.number n) : Within limits depth (.number n)
  | text {depth marks} (fits : limits.text marks) : Within limits depth (.text marks)
  | list {depth items} (each : ∀ d ∈ items, Within limits depth d) :
      Within limits (depth + 1) (.list items)
  | object {depth members} (names : ∀ m ∈ members, limits.text m.1)
      (each : ∀ m ∈ members, Within limits depth m.2) : Within limits (depth + 1) (.object members)

end Json
end FeatureScan
