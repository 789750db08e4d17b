import FeatureScan.Json.Skip
import FeatureScan.Text.Quoted

/-!
Shapes of the values that the program accepts from outside. A shape is read in two ways:
straight from a text, where the members of a record come in the order of the text and
the first fault from the left is told, and from a plain value, whose members come in the
order of their names. Both give the value in canonical form: the members of a record are
those of the shape, in its order.
-/

namespace FeatureScan
namespace Json

inductive Shape where
  | text
  | flag
  /-- A whole number of 64 bits without sign. -/
  | count
  /-- A text of a special form. -/
  | written (what : String) (accepts : String → Bool)
  /-- One of these names. -/
  | choice (names : List String)
  | list (item : Shape)
  /-- Null, or a value of the shape. -/
  | option (item : Shape)
  | record (name : String) (fields : List (String × Shape))
  /-- A value of the shape for which `fault` finds nothing wrong. -/
  | checked (base : Shape) (fault : Json → Option String)

def marked (s : String) : String := "\u0060" ++ s ++ "\u0060"

def kind : Json → String
  | .null => "null"
  | .bool b => "boolean " ++ marked (if b then "true" else "false")
  | .number (.real x) => "floating point " ++ marked x.toText
  | .number (.nat n) => "integer " ++ marked (toString n)
  | .number (.negSucc n) => "integer " ++ marked ("-" ++ toString (n + 1))
  | .text s => "string " ++ Text.quoted s
  | .list _ => "sequence"
  | .object _ => "map"

def invalidType (found expected : String) : String :=
  "invalid type: " ++ found ++ ", expected " ++ expected

def invalidValue (found expected : String) : String :=
  "invalid value: " ++ found ++ ", expected " ++ expected

def invalidLength (n : Nat) (expected : String) : String :=
  "invalid length " ++ toString n ++ ", expected " ++ expected

def missingField (name : String) : String := "missing field " ++ marked name

def duplicateField (name : String) : String := "duplicate field " ++ marked name

def unknownName (name : String) (known : List String) : String :=
  "unknown variant " ++ marked name ++ ", " ++
    match known with
    | [] => "there are no variants"
    | [a] => "expected " ++ marked a
    | [a, b] => "expected " ++ marked a ++ " or " ++ marked b
    | names => "expected one of " ++ String.intercalate ", " (names.map marked)

def recordKind (name : String) : String := "struct " ++ name

def recordLength (name : String) (fields : Nat) : String :=
  recordKind name ++ " with " ++ toString fields ++
    (if fields = 1 then " element" else " elements")

/-- What is wrong with a number where a whole number is asked for. -/
def countFault (n : Number) : Option String :=
  match n with
  | .nat _ => none
  | .negSucc _ => some (invalidValue (kind (.number n)) "usize")
  | .real _ => some (invalidType (kind (.number n)) "usize")

/-- Reading from a text: a value from the front of the input. -/
abbrev TextReader := List Char → Except Problem (Json × List Char)

def unsuitable {α : Type} (message : String) (input : List Char) : Except Problem α :=
  failAt (.unsuitable (some message)) input

/-- Fails because the next value is of another kind than expected. A scalar is read
first, and may be at fault itself. -/
def wrongKind {α : Type} (expected : String) (input : List Char) : Except Problem α :=
  match input with
  | [] => failOn .endInValue []
  | '[' :: _ => unsuitable (invalidType (kind (.list [])) expected) input
  | '\x7b' :: _ => unsuitable (invalidType (kind (.object [])) expected) input
  | c :: rest => do
      let (v, rest) ← readScalar c rest
      unsuitable (invalidType (kind v) expected) rest

def readTextAs (expected : String) (input : List Char) :
    Except Problem (String × List Char) :=
  match skipSpace input with
  | '"' :: rest => readText rest
  | input => wrongKind expected input

def readFlag (input : List Char) : Except Problem (Json × List Char) :=
  match skipSpace input with
  | 't' :: rest => readScalar 't' rest
  | 'f' :: rest => readScalar 'f' rest
  | input => wrongKind "a boolean" input

def readCount (input : List Char) : Except Problem (Json × List Char) :=
  let checked (n : Number) (rest : List Char) :=
    match countFault n with
    | some message => unsuitable message rest
    | none => .ok (.number n, rest)
  match skipSpace input with
  | '-' :: rest => do
      let (n, rest) ← readNumber true rest
      checked n rest
  | c :: rest =>
      if c.isDigit then do
        let (n, rest) ← readNumber false (c :: rest)
        checked n rest
      else wrongKind "usize" (c :: rest)
  | [] => failOn .endInValue []

/-- A name, given as a text or as the only member of an object, with the value null. -/
def readChoice (names : List String) (input : List Char) : Except Problem (Json × List Char) :=
  let known (name : String) (rest : List Char) : Except Problem Unit :=
    if names.contains name then .ok () else unsuitable (unknownName name names) rest
  match skipSpace input with
  | [] => failOn .endInValue []
  | '"' :: rest => do
      let (name, rest) ← readText rest
      known name rest
      .ok (.text name, rest)
  | '\x7b' :: rest => do
      let (name, rest) ← readTextAs "variant identifier" rest
      known name rest
      let (_, rest) ← readColon rest
      let (_, rest) ← match skipSpace rest with
        | 'n' :: rest => readKeyword ['u', 'l', 'l'] rest
        | rest => wrongKind "unit" rest
      match skipSpace rest with
      | [] => failAt .endInObject []
      | '\x7d' :: rest => .ok (.text name, rest)
      | rest => failAt .expectedValue rest
  | input => failOn .expectedValue input

def readItemsWith (item : TextReader) :
    Nat → Bool → List Json → List Char → Except Problem (Json × List Char)
  | 0, _, _, input => failOn .endInList input
  | fuel + 1, first, items, input => do
      match ← nextItem first input with
      | none => .ok (.list items.reverse, (skipSpace input).drop 1)
      | some input =>
          let (v, rest) ← item input
          readItemsWith item fuel false (v :: items) rest

def readListWith (item : TextReader) (input : List Char) : Except Problem (Json × List Char) :=
  match skipSpace input with
  | '[' :: rest => readItemsWith item (rest.length + 1) true [] rest
  | input => wrongKind "a sequence" input

def readOptionWith (item : TextReader) (input : List Char) :
    Except Problem (Json × List Char) :=
  match skipSpace input with
  | 'n' :: rest => readScalar 'n' rest
  | input => item input

structure Field (ρ : Type) where
  name : String
  optional : Bool
  read : ρ

/-- The members of a record in the order of its fields. A field that was not given is
null if it is optional. -/
def assemble {ρ : Type} (given : List (String × Json)) :
    List (Field ρ) → Except String (List (String × Json))
  | [] => .ok []
  | f :: rest => do
      let v ← match lookupEntry f.name given with
        | some v => pure v
        | none => if f.optional then pure .null else throw (missingField f.name)
      return (f.name, v) :: (← assemble given rest)

/-- A record given as a list: its fields in order and nothing more. -/
def readFieldItems (size : String) :
    Nat → Bool → List (Field TextReader) → List Char →
      Except Problem (List (String × Json) × List Char)
  | _, _, [], input =>
      match skipSpace input with
      | [] => failOn .endInList []
      | ']' :: rest => .ok ([], rest)
      | ',' :: rest =>
          match skipSpace rest with
          | ']' :: rest => failOn .trailingComma (']' :: rest)
          | rest => failOn .trailingCharacters rest
      | input => failOn .trailingCharacters input
  | index, first, f :: fields, input => do
      match ← nextItem first input with
      | none => unsuitable (invalidLength index size) input
      | some input =>
          let (v, rest) ← f.read input
          let (others, rest) ← readFieldItems size (index + 1) false fields rest
          .ok ((f.name, v) :: others, rest)

/-- A record given as an object: its fields in any order, and any other members, which
are passed over. -/
def readFieldMembers (fields : List (Field TextReader)) :
    Nat → Bool → List (String × Json) → List Char →
      Except Problem (List (String × Json) × List Char)
  | 0, _, _, input => failOn .endInObject input
  | fuel + 1, first, given, input => do
      match ← nextMember first input with
      | none =>
          match assemble given fields with
          | .ok members => .ok (members, (skipSpace input).drop 1)
          | .error message => unsuitable message input
      | some input =>
          let (name, rest) ← readText input
          match fields.find? (·.name == name) with
          | some f =>
              if (lookupEntry name given).isSome then unsuitable (duplicateField name) rest
              else
                let (_, rest) ← readColon rest
                let (v, rest) ← f.read rest
                readFieldMembers fields fuel false ((name, v) :: given) rest
          | none =>
              let (_, rest) ← readColon rest
              let (_, rest) ← skipValue (2 * rest.length + 2) rest
              readFieldMembers fields fuel false given rest

def readRecordWith (name : String) (fields : List (Field TextReader)) (input : List Char) :
    Except Problem (Json × List Char) :=
  match skipSpace input with
  | '[' :: rest =>
      (readFieldItems (recordLength name fields.length) 0 true fields rest).map
        fun (members, rest) => (.object members, rest)
  | '\x7b' :: rest =>
      (readFieldMembers fields (rest.length + 1) true [] rest).map
        fun (members, rest) => (.object members, rest)
  | input => wrongKind (recordKind name) input

abbrev ValueReader := Json → Except (Option String) Json

def refuse {α : Type} (message : String) : Except (Option String) α := .error (some message)

def takeItems (item : ValueReader) : List Json → Except (Option String) (List Json)
  | [] => .ok []
  | v :: rest => do return (← item v) :: (← takeItems item rest)

def takeChoice (names : List String) (v : Json) : Except (Option String) Json :=
  let known (name : String) : Except (Option String) Unit :=
    if names.contains name then .ok () else refuse (unknownName name names)
  match v with
  | .text name => do
      known name
      return .text name
  | .object [(name, inner)] => do
      known name
      match inner with
      | .null => return .text name
      | inner => refuse (invalidType (kind inner) "unit")
  | .object _ => refuse (invalidValue "map" "map with a single key")
  | v => refuse (invalidType (kind v) "string or map")

def takeFieldItems (size : String) (total : Nat) :
    Nat → List (Field ValueReader) → List Json →
      Except (Option String) (List (String × Json))
  | _, [], [] => .ok []
  | _, [], _ :: _ => refuse (invalidLength total "fewer elements in array")
  | index, _ :: _, [] => refuse (invalidLength index size)
  | index, f :: fields, v :: rest => do
      let v ← f.read v
      return (f.name, v) :: (← takeFieldItems size total (index + 1) fields rest)

def takeFieldMembers (fields : List (Field ValueReader)) :
    List (String × Json) → Except (Option String) (List (String × Json))
  | [] => .ok []
  | (name, v) :: rest =>
      match fields.find? (·.name == name) with
      | some f => do
          let v ← f.read v
          return (name, v) :: (← takeFieldMembers fields rest)
      | none => takeFieldMembers fields rest

def takeRecordWith (name : String) (fields : List (Field ValueReader)) (v : Json) :
    Except (Option String) Json :=
  match v with
  | .list items =>
      (takeFieldItems (recordLength name fields.length) items.length 0 fields items).map .object
  | .object members => do
      let given ← takeFieldMembers fields members
      match assemble given fields with
      | .ok members => .ok (.object members)
      | .error message => refuse message
  | v => refuse (invalidType (kind v) (recordKind name))

namespace Shape

def isOption : Shape → Bool
  | .option _ => true
  | _ => false

mutual

def read : Shape → TextReader
  | .text, input => (readTextAs "a string" input).map fun (s, rest) => (.text s, rest)
  | .flag, input => readFlag input
  | .count, input => readCount input
  | .written what accepts, input => do
      let (s, rest) ← readTextAs what input
      if accepts s then .ok (.text s, rest) else failAt (.unsuitable none) rest
  | .choice names, input => readChoice names input
  | .list item, input => readListWith item.read input
  | .option item, input => readOptionWith item.read input
  | .record name fields, input => readRecordWith name (readFields fields) input
  | .checked base fault, input => do
      let (v, rest) ← base.read input
      match fault v with
      | some message => unsuitable message rest
      | none => .ok (v, rest)

def readFields : List (String × Shape) → List (Field TextReader)
  | [] => []
  | f :: rest => readField f :: readFields rest

def readField : String × Shape → Field TextReader
  | (name, shape) => ⟨name, shape.isOption, shape.read⟩

end

mutual

def take : Shape → ValueReader
  | .text, v => match v with
      | .text s => .ok (.text s)
      | v => refuse (invalidType (kind v) "a string")
  | .flag, v => match v with
      | .bool b => .ok (.bool b)
      | v => refuse (invalidType (kind v) "a boolean")
  | .count, v => match v with
      | .number n => match countFault n with
          | some message => refuse message
          | none => .ok (.number n)
      | v => refuse (invalidType (kind v) "usize")
  | .written what accepts, v => match v with
      | .text s => if accepts s then .ok (.text s) else .error none
      | v => refuse (invalidType (kind v) what)
  | .choice names, v => takeChoice names v
  | .list item, v => match v with
      | .list items => (takeItems item.take items).map .list
      | v => refuse (invalidType (kind v) "a sequence")
  | .option item, v => match v with
      | .null => .ok .null
      | v => item.take v
  | .record name fields, v => takeRecordWith name (takeFields fields) v
  | .checked base fault, v => do
      let v ← base.take v
      match fault v with
      | some message => refuse message
      | none => .ok v

def takeFields : List (String × Shape) → List (Field ValueReader)
  | [] => []
  | f :: rest => takeField f :: takeFields rest

def takeField : String × Shape → Field ValueReader
  | (name, shape) => ⟨name, shape.isOption, shape.take⟩

end

/-- Reads a document of the shape. -/
def readDocument (shape : Shape) (input : String) : Except Problem Json :=
  readEnd (shape.read input.toList)

end Shape
end Json
end FeatureScan
