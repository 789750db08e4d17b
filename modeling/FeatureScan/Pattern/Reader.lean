import FeatureScan.Pattern.ClassReader

/-!
Reading a pattern text. The reader gives the expression or nothing when the text is not
a pattern; there are no look-around conditions and no references to groups. Flags hold
from where they are set to the end of the group around them.
-/

namespace FeatureScan
namespace Pattern

/-- A part of a branch: an expression with the depth of its nesting, or a place where
flags were set, which cannot be repeated. -/
inductive Part where
  | expr (r : Regex) (depth : Nat)
  | flags
  deriving Repr, DecidableEq

namespace Part

def expr? : Part → Option (Regex × Nat)
  | .expr r depth => some (r, depth)
  | .flags => none

end Part

/-- Several expressions put together, one level deeper than the deepest of them. A
single one stays as it is. -/
def combine (join : List Regex → Regex) (items : List (Regex × Nat)) : Regex × Nat :=
  match items with
  | [] => (.empty, 0)
  | [item] => item
  | items => (join (items.map Prod.fst), (items.map Prod.snd).foldl max 0 + 1)

def Regex.weight : Regex → Nat
  | .empty | .look _ => 0
  | .chars _ => 1
  | .seq r s | .alt r s => r.weight + s.weight
  | .plus _ r => r.weight

/-- The depth of nesting and the number of steps beyond which a pattern is refused. -/
def nestingLimit : Nat := 250

def weightLimit : Nat := 200000

/-- What has been read of a group: its finished branches and the parts of the branch
being read, both last first, and the mode in force. -/
structure Branches where
  mode : Mode
  done : List (Regex × Nat)
  parts : List Part

namespace Branches

def start (mode : Mode) : Branches := ⟨mode, [], []⟩

def push (b : Branches) (p : Part) : Branches := { b with parts := p :: b.parts }

def branch (b : Branches) : Regex × Nat :=
  combine .seqAll (b.parts.reverse.filterMap Part.expr?)

def nextBranch (b : Branches) : Branches :=
  { b with done := b.branch :: b.done, parts := [] }

def close (b : Branches) : Regex × Nat :=
  combine .altAll (b.branch :: b.done).reverse

/-- Repeats the last part. Nothing can be repeated at the start of a branch or right
after flags. -/
def repeatLast (b : Branches) (f : Regex → Regex) (copies : Nat) : Option Branches :=
  match b.parts with
  | .expr r d :: rest =>
      if (max copies 1) * r.weight ≤ weightLimit then
        some { b with parts := .expr (f r) (d + 1) :: rest }
      else
        none
  | _ => none

end Branches

def readGreed (mode : Mode) (input : List Char) : Bool × List Char :=
  match input with
  | '?' :: rest => (mode.swapGreed, rest)
  | _ => (!mode.swapGreed, input)

/-- A decimal number of at most 32 bits with blanks around it. -/
def readCount (input : List Char) : Option (Nat × List Char) :=
  let input := input.dropWhile Text.isBlank
  let digits := input.takeWhile Char.isDigit
  let n := Text.decimalValue digits
  if digits.isEmpty ∨ 0xffffffff < n then none
  else some (n, (input.dropWhile Char.isDigit).dropWhile Text.isBlank)

/-- The bounds of a counted repetition, after its opening brace. -/
def readBounds (mode : Mode) (input : List Char) : Option (Nat × Option Nat × List Char) := do
  let (least, rest) ← readCount (mode.skip input)
  match rest with
  | '}' :: rest => some (least, some least, rest)
  | ',' :: rest =>
      match mode.skip rest with
      | '}' :: rest => some (least, none, rest)
      | rest => do
          let (most, rest) ← readCount rest
          match rest with
          | '}' :: rest => if least ≤ most then some (least, some most, rest) else none
          | _ => none
  | _ => none

def Mode.set (mode : Mode) (on : Bool) : Char → Option Mode
  | 'i' => some { mode with caseless := on }
  | 'm' => some { mode with multiLine := on }
  | 's' => some { mode with dotAll := on }
  | 'U' => some { mode with swapGreed := on }
  | 'u' => some { mode with unicode := on }
  | 'R' => some { mode with anyLineEnd := on }
  | 'x' => some { mode with verbose := on }
  | _ => none

/-- Flags up to the closing bracket or the colon of their group: the mode they give and
that character. No flag and no minus sign comes twice, and a flag follows the minus. -/
def readFlags (mode : Mode) (seen : List Char) : List Char → Option (Mode × Char × List Char)
  | [] => none
  | c :: rest =>
      if c = ')' ∨ c = ':' then
        if seen.head? = some '-' then none else some (mode, c, rest)
      else if seen.contains c then
        none
      else if c = '-' then
        readFlags mode (c :: seen) rest
      else do
        readFlags (← mode.set (!seen.contains '-') c) (c :: seen) rest

def readGroupName (input : List Char) : Option (List Char × List Char) :=
  let letter (c : Char) := c == '_' || (c.isAlpha || (128 ≤ c.toNat && CharSet.word.contains c))
  match input.span (· ≠ '>') with
  | (first :: others, '>' :: rest) =>
      if letter first ∧
          others.all fun c => letter c || c.isDigit || c == '.' || c == '[' || c == ']' then
        some (first :: others, rest)
      else
        none
  | _ => none

/-- The dot: any character but those that end a line. Outside Unicode mode it would take
single bytes and is refused. -/
def Mode.dot (mode : Mode) : Option CharSet :=
  if !mode.unicode then none
  else if mode.dotAll then some .any
  else if mode.anyLineEnd then some (.compl (.union (.single '\n') (.single '\r')))
  else some (.compl (.single '\n'))

def Mode.caret (mode : Mode) : Anchor :=
  if mode.multiLine then if mode.anyLineEnd then .anyLineStart else .lineStart else .textStart

def Mode.dollar (mode : Mode) : Anchor :=
  if mode.multiLine then if mode.anyLineEnd then .anyLineEnd else .lineEnd else .textEnd

def Escape.part? (mode : Mode) : Escape → Option Regex
  | .char c byte =>
      if byte && !mode.unicode && 128 ≤ c.toNat then none else some (.chars (mode.literal c))
  | .set s => if mode.admits s then some (.chars s) else none
  | .look a => some (.look a)

/-- Reads a group from inside: to the closing bracket that belongs to it, which is left,
or to the end of the text. `names` are the group names taken so far. -/
def readGroup :
    Nat → List (List Char) → Branches → List Char →
      Option ((Regex × Nat) × List (List Char) × List Char)
  | 0, _, _, _ => none
  | fuel + 1, names, b, input =>
      let one (r : Regex) (rest : List Char) := readGroup fuel names (b.push (.expr r 0)) rest
      let again (f : Bool → Regex → Regex) (copies : Nat) (rest : List Char) := do
        let (greedy, rest) := readGreed b.mode rest
        readGroup fuel names (← b.repeatLast (f greedy) copies) rest
      let group (mode : Mode) (names : List (List Char)) (rest : List Char) := do
        let ((r, depth), names, rest) ← readGroup fuel names (.start mode) rest
        match rest with
        | ')' :: rest => readGroup fuel names (b.push (.expr r (depth + 1))) rest
        | _ => none
      let named (rest : List Char) := do
        let (name, rest) ← readGroupName rest
        if names.contains name then none else group b.mode (name :: names) rest
      match b.mode.skip input with
      | [] => some (b.close, names, [])
      | ')' :: rest => some (b.close, names, ')' :: rest)
      | '|' :: rest => readGroup fuel names b.nextBranch rest
      | '*' :: rest => again Regex.many 1 rest
      | '+' :: rest => again Regex.plus 1 rest
      | '?' :: rest => again Regex.option 1 rest
      | '{' :: rest => do
          let (least, most, rest) ← readBounds b.mode rest
          let (greedy, rest) := readGreed b.mode (b.mode.skip rest)
          let b ← b.repeatLast (fun r => r.times greedy least most) (max least (most.getD 0))
          readGroup fuel names b rest
      | '.' :: rest => do one (.chars (← b.mode.dot)) rest
      | '^' :: rest => one (.look b.mode.caret) rest
      | '$' :: rest => one (.look b.mode.dollar) rest
      | '\\' :: rest => do
          let (e, rest) ← readEscape b.mode rest
          one (← e.part? b.mode) rest
      | '[' :: rest => do
          let (s, depth, rest) ← readClass b.mode rest
          readGroup fuel names (b.push (.expr (.chars s) depth)) rest
      | '(' :: rest =>
          match b.mode.skip rest with
          | '?' :: 'P' :: '<' :: rest => named rest
          | '?' :: '<' :: '=' :: _ | '?' :: '<' :: '!' :: _ => none
          | '?' :: '<' :: rest => named rest
          | '?' :: rest => do
              let (mode, mark, after) ← readFlags b.mode [] rest
              if mark = ':' then group mode names after
              else if rest.head? = some ')' then none
              else readGroup fuel names { b.push .flags with mode } after
          | rest => group b.mode names rest
      | c :: rest => one (.chars (b.mode.literal c)) rest

namespace Regex

/-- The expression that the characters of a pattern write, read without regard to case
unless flags say otherwise. -/
def readChars? (input : List Char) : Option Regex :=
  match readGroup (input.length + 1) [] (.start .caseInsensitive) input with
  | some ((r, depth), _, []) =>
      if depth ≤ nestingLimit ∧ r.weight ≤ weightLimit then some r else none
  | _ => none

def read? (pattern : String) : Option Regex := readChars? pattern.toList

end Regex

/-- What the patterns of a catalog are read with. -/
structure Reader where
  /-- The expression that a text writes, or what is wrong with the text. -/
  read : String → Except String Regex
  /-- A text in which each character of a word stands for itself. -/
  escape : String → String

namespace Reader

def read? (reader : Reader) (pattern : String) : Option Regex := (reader.read pattern).toOption

/-- The characters that may mean something else than themselves. -/
def metaChars : List Char :=
  ['\\', '.', '+', '*', '?', '(', ')', '|', '[', ']', '{', '}', '^', '$', '#', '&', '-', '~']

def escapeChar (c : Char) : List Char := if c ∈ metaChars then ['\\', c] else [c]

/-- The reader of this library. It knows only some of the properties that `\p` may name, has limits
of its own and does not tell what is wrong with a text. -/
def standard : Reader where
  read pattern :=
    match Regex.read? pattern with
    | some r => .ok r
    | none => .error "not a pattern"
  escape word := String.ofList (word.toList.flatMap escapeChar)

@[simp] theorem standard_read? (pattern : String) :
    standard.read? pattern = Regex.read? pattern := by
  simp only [read?, standard]
  cases Regex.read? pattern <;> rfl

end Reader
end Pattern
end FeatureScan
