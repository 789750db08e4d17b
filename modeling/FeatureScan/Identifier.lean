/-!
Random identifiers: sixteen bytes as hexadecimal digits in five groups, in which a version
of four and a variant of two are marked.
-/

namespace FeatureScan
namespace Identifier

def byteText (b : Nat) : List Char := [Nat.digitChar (b / 16 % 16), Nat.digitChar (b % 16)]

/-- The bytes with the version in the seventh and the variant in the ninth. -/
def marked (bytes : List Nat) : List Nat :=
  bytes.mapIdx fun i b =>
    if i = 6 then 0x40 + b % 16 else if i = 8 then 0x80 + b % 64 else b

/-- The numbers of bytes in the groups. -/
def groupSizes : List Nat := [4, 2, 2, 2, 6]

def groups : List Nat → List Nat → List (List Nat)
  | [], _ => []
  | size :: sizes, bytes => bytes.take size :: groups sizes (bytes.drop size)

def ofBytes (bytes : List Nat) : String :=
  String.ofList
    (((groups groupSizes (marked bytes)).map (·.flatMap byteText)).intersperse ['-']).flatten

end Identifier
end FeatureScan
