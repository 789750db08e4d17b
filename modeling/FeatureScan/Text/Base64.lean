/-!
Bytes as text of 64 symbols that need no escape in an address, six bits a symbol and
without filling at the end. Each sequence of bytes has one text: the bits that the last
symbol has to spare are zero.
-/

namespace FeatureScan
namespace Text

/-- Why a text stands for no bytes. Positions count the bytes of the text. -/
inductive Base64Fault where
  | symbol (byte : UInt8) (offset : Nat)
  /-- The last symbol has bits to spare that are not zero. -/
  | lastSymbol (byte : UInt8) (offset : Nat)
  | length (n : Nat)
  deriving Repr, DecidableEq

namespace Base64Fault

def message : Base64Fault → String
  | .symbol byte offset =>
      "Invalid symbol " ++ toString byte.toNat ++ ", offset " ++ toString offset ++ "."
  | .lastSymbol byte offset =>
      "Invalid last symbol " ++ toString byte.toNat ++ ", offset " ++ toString offset ++ "."
  | .length n => "Invalid input length: " ++ toString n

end Base64Fault

/-- The symbol for six bits. -/
def symbolOf (n : Nat) : Char :=
  if n < 26 then Char.ofNat (65 + n)
  else if n < 52 then Char.ofNat (97 + (n - 26))
  else if n < 62 then Char.ofNat (48 + (n - 52))
  else if n = 62 then '-'
  else '_'

/-- The six bits of a symbol, given by its byte. -/
def bitsOf? (byte : UInt8) : Option Nat :=
  let n := byte.toNat
  if 65 ≤ n ∧ n ≤ 90 then some (n - 65)
  else if 97 ≤ n ∧ n ≤ 122 then some (n - 97 + 26)
  else if 48 ≤ n ∧ n ≤ 57 then some (n - 48 + 52)
  else if n = 45 then some 62
  else if n = 95 then some 63
  else none

def encodeBase64 : List UInt8 → List Char
  | [] => []
  | [a] => [symbolOf (a.toNat / 4), symbolOf (a.toNat % 4 * 16)]
  | [a, b] =>
      [symbolOf (a.toNat / 4), symbolOf (a.toNat % 4 * 16 + b.toNat / 16),
        symbolOf (b.toNat % 16 * 4)]
  | a :: b :: c :: rest =>
      symbolOf (a.toNat / 4) :: symbolOf (a.toNat % 4 * 16 + b.toNat / 16) ::
        symbolOf (b.toNat % 16 * 4 + c.toNat / 64) :: symbolOf (c.toNat % 64) ::
        encodeBase64 rest

/-- The bits of symbols that start at index `i`, or the first byte that is none. -/
def symbolBits (i : Nat) : List UInt8 → Except Base64Fault (List Nat)
  | [] => .ok []
  | byte :: rest =>
      match bitsOf? byte with
      | some n => (symbolBits (i + 1) rest).map (n :: ·)
      | none => .error (.symbol byte i)

/-- The bytes of groups of six bits; `last` is the fault of bits to spare at the end. -/
def joinBits (total : Nat) (last : Base64Fault) : List Nat → Except Base64Fault (List UInt8)
  | [] => .ok []
  | [_] => .error (.length total)
  | [a, b] => if b % 16 = 0 then .ok [UInt8.ofNat (a * 4 + b / 16)] else .error last
  | [a, b, c] =>
      if c % 4 = 0 then
        .ok [UInt8.ofNat (a * 4 + b / 16), UInt8.ofNat (b % 16 * 16 + c / 4)]
      else .error last
  | a :: b :: c :: d :: rest =>
      (joinBits total last rest).map fun bytes =>
        UInt8.ofNat (a * 4 + b / 16) :: UInt8.ofNat (b % 16 * 16 + c / 4) ::
          UInt8.ofNat (c % 4 * 64 + d) :: bytes

/-- The bytes of a text. A bad byte at the end of a text whose length is one too many is
told before any other. -/
def decodeBase64 (text : List UInt8) : Except Base64Fault (List UInt8) := do
  let last := text.getLastD 0
  let end_ := text.length - 1
  if text.length % 4 = 1 ∧ (bitsOf? last).isNone then throw (.symbol last end_)
  let bits ← symbolBits 0 text
  joinBits text.length (.lastSymbol last end_) bits

end Text
end FeatureScan
