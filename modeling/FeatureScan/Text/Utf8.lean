/-!
Texts as bytes. Every character has one form of one to four bytes; a decoder that meets
other bytes tells where the first bad form begins and how many bytes of it stand there.
-/

namespace FeatureScan
namespace Text

/-- Bytes that form no text. -/
inductive Utf8Fault where
  /-- `length` bytes from `start` on begin no character. -/
  | invalid (length start : Nat)
  /-- The bytes end inside a character. -/
  | incomplete (start : Nat)
  deriving Repr, DecidableEq

namespace Utf8Fault

def message : Utf8Fault → String
  | .invalid length start =>
      "invalid utf-8 sequence of " ++ toString length ++ " bytes from index " ++ toString start
  | .incomplete start => "incomplete utf-8 byte sequence from index " ++ toString start

end Utf8Fault

def encodeUtf8 (s : List Char) : List UInt8 := s.flatMap String.utf8EncodeChar

/-- Whether a byte stands behind the first one of a character. -/
def isFollower (b : UInt8) : Bool := 0x80 ≤ b && b ≤ 0xbf

/-- The bounds of the second byte of a character of three bytes. -/
def secondOfThree (first second : UInt8) : Bool :=
  if first = 0xe0 then 0xa0 ≤ second && second ≤ 0xbf
  else if first = 0xed then 0x80 ≤ second && second ≤ 0x9f
  else isFollower second

/-- The bounds of the second byte of a character of four bytes. -/
def secondOfFour (first second : UInt8) : Bool :=
  if first = 0xf0 then 0x90 ≤ second && second ≤ 0xbf
  else if first = 0xf4 then 0x80 ≤ second && second ≤ 0x8f
  else isFollower second

def followerBits (b : UInt8) : Nat := b.toNat % 64

/-- The text of bytes that start at index `i`. -/
def decodeUtf8From (i : Nat) : List UInt8 → Except Utf8Fault (List Char)
  | [] => .ok []
  | a :: rest =>
      if a < 0x80 then
        (decodeUtf8From (i + 1) rest).map (Char.ofNat a.toNat :: ·)
      else if 0xc2 ≤ a && a ≤ 0xdf then
        match rest with
        | [] => .error (.incomplete i)
        | b :: rest =>
            if isFollower b then
              (decodeUtf8From (i + 2) rest).map
                (Char.ofNat (a.toNat % 32 * 64 + followerBits b) :: ·)
            else .error (.invalid 1 i)
      else if 0xe0 ≤ a && a ≤ 0xef then
        match rest with
        | [] => .error (.incomplete i)
        | b :: rest =>
            if secondOfThree a b then
              match rest with
              | [] => .error (.incomplete i)
              | c :: rest =>
                  if isFollower c then
                    (decodeUtf8From (i + 3) rest).map
                      (Char.ofNat ((a.toNat % 16 * 64 + followerBits b) * 64 + followerBits c) :: ·)
                  else .error (.invalid 2 i)
            else .error (.invalid 1 i)
      else if 0xf0 ≤ a && a ≤ 0xf4 then
        match rest with
        | [] => .error (.incomplete i)
        | b :: rest =>
            if secondOfFour a b then
              match rest with
              | [] => .error (.incomplete i)
              | c :: rest =>
                  if isFollower c then
                    match rest with
                    | [] => .error (.incomplete i)
                    | d :: rest =>
                        if isFollower d then
                          (decodeUtf8From (i + 4) rest).map
                            (Char.ofNat
                              (((a.toNat % 8 * 64 + followerBits b) * 64 + followerBits c) * 64 +
                                followerBits d) :: ·)
                        else .error (.invalid 3 i)
                  else .error (.invalid 2 i)
            else .error (.invalid 1 i)
      else .error (.invalid 1 i)

def decodeUtf8 (bytes : List UInt8) : Except Utf8Fault String :=
  (decodeUtf8From 0 bytes).map String.ofList

end Text
end FeatureScan
