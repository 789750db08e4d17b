/-!
Simple case folding, seen as a partition: two characters belong to one family when
simple folding sends them to the same character. Most families are a singleton, a
Latin letter has two members, and `k` and `s` have a third one outside ASCII.
-/

namespace FeatureScan
namespace Pattern

/-- A run of families. The least members are `first`, `first + stride`, … up to
`last`, and the other members of each lie at the given distances above the least. -/
structure FamilyRun where
  first : Nat
  last : Nat
  stride : Nat
  shifts : List Nat
  deriving Repr, DecidableEq

/-- The families with more than one member. -/
def familyRuns : List FamilyRun := [
  ⟨0x41, 0x4a, 1, [32]⟩, ⟨0x4b, 0x4b, 1, [32, 8415]⟩, ⟨0x4c, 0x5a, 2, [32]⟩,
  ⟨0x4d, 0x51, 2, [32]⟩, ⟨0x53, 0x53, 1, [32, 300]⟩, ⟨0x55, 0x59, 2, [32]⟩,
  ⟨0xb5, 0xb5, 1, [743, 775]⟩, ⟨0xc0, 0xde, 2, [32]⟩, ⟨0xc1, 0xc3, 2, [32]⟩,
  ⟨0xc5, 0xc5, 1, [32, 8294]⟩, ⟨0xc7, 0xd5, 2, [32]⟩, ⟨0xd9, 0xdd, 2, [32]⟩,
  ⟨0xdf, 0xdf, 1, [7615]⟩, ⟨0xff, 0xff, 1, [121]⟩, ⟨0x100, 0x12e, 2, [1]⟩,
  ⟨0x132, 0x136, 2, [1]⟩, ⟨0x139, 0x147, 2, [1]⟩, ⟨0x14a, 0x176, 2, [1]⟩, ⟨0x179, 0x17d, 2, [1]⟩,
  ⟨0x180, 0x180, 1, [195]⟩, ⟨0x181, 0x181, 1, [210]⟩, ⟨0x182, 0x184, 2, [1]⟩,
  ⟨0x186, 0x186, 1, [206]⟩, ⟨0x187, 0x187, 1, [1]⟩, ⟨0x189, 0x18a, 1, [205]⟩,
  ⟨0x18b, 0x18b, 1, [1]⟩, ⟨0x18e, 0x18e, 1, [79]⟩, ⟨0x18f, 0x18f, 1, [202]⟩,
  ⟨0x190, 0x190, 1, [203]⟩, ⟨0x191, 0x191, 1, [1]⟩, ⟨0x193, 0x193, 1, [205]⟩,
  ⟨0x194, 0x194, 1, [207]⟩, ⟨0x195, 0x195, 1, [97]⟩, ⟨0x196, 0x196, 1, [211]⟩,
  ⟨0x197, 0x197, 1, [209]⟩, ⟨0x198, 0x198, 1, [1]⟩, ⟨0x19a, 0x19a, 1, [163]⟩,
  ⟨0x19b, 0x19b, 1, [42561]⟩, ⟨0x19c, 0x19c, 1, [211]⟩, ⟨0x19d, 0x19d, 1, [213]⟩,
  ⟨0x19e, 0x19e, 1, [130]⟩, ⟨0x19f, 0x19f, 1, [214]⟩, ⟨0x1a0, 0x1a4, 2, [1]⟩,
  ⟨0x1a6, 0x1a6, 1, [218]⟩, ⟨0x1a7, 0x1a7, 1, [1]⟩, ⟨0x1a9, 0x1a9, 1, [218]⟩,
  ⟨0x1ac, 0x1ac, 1, [1]⟩, ⟨0x1ae, 0x1ae, 1, [218]⟩, ⟨0x1af, 0x1af, 1, [1]⟩,
  ⟨0x1b1, 0x1b2, 1, [217]⟩, ⟨0x1b3, 0x1b5, 2, [1]⟩, ⟨0x1b7, 0x1b7, 1, [219]⟩,
  ⟨0x1b8, 0x1b8, 1, [1]⟩, ⟨0x1bc, 0x1bc, 1, [1]⟩, ⟨0x1bf, 0x1bf, 1, [56]⟩,
  ⟨0x1c4, 0x1c4, 1, [1, 2]⟩, ⟨0x1c7, 0x1c7, 1, [1, 2]⟩, ⟨0x1ca, 0x1ca, 1, [1, 2]⟩,
  ⟨0x1cd, 0x1db, 2, [1]⟩, ⟨0x1de, 0x1ee, 2, [1]⟩, ⟨0x1f1, 0x1f1, 1, [1, 2]⟩,
  ⟨0x1f4, 0x1f4, 1, [1]⟩, ⟨0x1f8, 0x21e, 2, [1]⟩, ⟨0x222, 0x232, 2, [1]⟩,
  ⟨0x23a, 0x23a, 1, [10795]⟩, ⟨0x23b, 0x23b, 1, [1]⟩, ⟨0x23e, 0x23e, 1, [10792]⟩,
  ⟨0x23f, 0x240, 1, [10815]⟩, ⟨0x241, 0x241, 1, [1]⟩, ⟨0x244, 0x244, 1, [69]⟩,
  ⟨0x245, 0x245, 1, [71]⟩, ⟨0x246, 0x24e, 2, [1]⟩, ⟨0x250, 0x250, 1, [10783]⟩,
  ⟨0x251, 0x251, 1, [10780]⟩, ⟨0x252, 0x252, 1, [10782]⟩, ⟨0x25c, 0x25c, 1, [42319]⟩,
  ⟨0x261, 0x261, 1, [42315]⟩, ⟨0x264, 0x264, 1, [42343]⟩, ⟨0x265, 0x265, 1, [42280]⟩,
  ⟨0x266, 0x266, 1, [42308]⟩, ⟨0x26a, 0x26a, 1, [42308]⟩, ⟨0x26b, 0x26b, 1, [10743]⟩,
  ⟨0x26c, 0x26c, 1, [42305]⟩, ⟨0x271, 0x271, 1, [10749]⟩, ⟨0x27d, 0x27d, 1, [10727]⟩,
  ⟨0x282, 0x282, 1, [42307]⟩, ⟨0x287, 0x287, 1, [42282]⟩, ⟨0x29d, 0x29d, 1, [42261]⟩,
  ⟨0x29e, 0x29e, 1, [42258]⟩, ⟨0x345, 0x345, 1, [84, 116, 7289]⟩, ⟨0x370, 0x372, 2, [1]⟩,
  ⟨0x376, 0x376, 1, [1]⟩, ⟨0x37b, 0x37d, 1, [130]⟩, ⟨0x37f, 0x37f, 1, [116]⟩,
  ⟨0x386, 0x386, 1, [38]⟩, ⟨0x388, 0x38a, 1, [37]⟩, ⟨0x38c, 0x38c, 1, [64]⟩,
  ⟨0x38e, 0x38f, 1, [63]⟩, ⟨0x390, 0x390, 1, [7235]⟩, ⟨0x391, 0x393, 2, [32]⟩,
  ⟨0x392, 0x392, 1, [32, 62]⟩, ⟨0x394, 0x396, 2, [32]⟩, ⟨0x395, 0x395, 1, [32, 96]⟩,
  ⟨0x397, 0x397, 1, [32]⟩, ⟨0x398, 0x398, 1, [32, 57, 92]⟩, ⟨0x39a, 0x39a, 1, [32, 86]⟩,
  ⟨0x39b, 0x39f, 2, [32]⟩, ⟨0x39e, 0x39e, 1, [32]⟩, ⟨0x3a0, 0x3a0, 1, [32, 54]⟩,
  ⟨0x3a1, 0x3a1, 1, [32, 80]⟩, ⟨0x3a3, 0x3a3, 1, [31, 32]⟩, ⟨0x3a4, 0x3a5, 1, [32]⟩,
  ⟨0x3a6, 0x3a6, 1, [32, 47]⟩, ⟨0x3a7, 0x3a8, 1, [32]⟩, ⟨0x3a9, 0x3a9, 1, [32, 7549]⟩,
  ⟨0x3aa, 0x3ab, 1, [32]⟩, ⟨0x3b0, 0x3b0, 1, [7219]⟩, ⟨0x3cf, 0x3cf, 1, [8]⟩,
  ⟨0x3d8, 0x3ee, 2, [1]⟩, ⟨0x3f2, 0x3f2, 1, [7]⟩, ⟨0x3f7, 0x3f7, 1, [1]⟩, ⟨0x3fa, 0x3fa, 1, [1]⟩,
  ⟨0x400, 0x40f, 1, [80]⟩, ⟨0x410, 0x411, 1, [32]⟩, ⟨0x412, 0x412, 1, [32, 6254]⟩,
  ⟨0x413, 0x41f, 2, [32]⟩, ⟨0x414, 0x414, 1, [32, 6253]⟩, ⟨0x416, 0x41c, 2, [32]⟩,
  ⟨0x41e, 0x41e, 1, [32, 6244]⟩, ⟨0x420, 0x420, 1, [32]⟩, ⟨0x421, 0x421, 1, [32, 6242]⟩,
  ⟨0x422, 0x422, 1, [32, 6242, 6243]⟩, ⟨0x423, 0x429, 1, [32]⟩, ⟨0x42a, 0x42a, 1, [32, 6236]⟩,
  ⟨0x42b, 0x42f, 1, [32]⟩, ⟨0x460, 0x460, 1, [1]⟩, ⟨0x462, 0x462, 1, [1, 6181]⟩,
  ⟨0x464, 0x480, 2, [1]⟩, ⟨0x48a, 0x4be, 2, [1]⟩, ⟨0x4c0, 0x4c0, 1, [15]⟩,
  ⟨0x4c1, 0x4cd, 2, [1]⟩, ⟨0x4d0, 0x52e, 2, [1]⟩, ⟨0x531, 0x556, 1, [48]⟩,
  ⟨0x10a0, 0x10c5, 1, [7264]⟩, ⟨0x10c7, 0x10c7, 1, [7264]⟩, ⟨0x10cd, 0x10cd, 1, [7264]⟩,
  ⟨0x10d0, 0x10fa, 1, [3008]⟩, ⟨0x10fd, 0x10ff, 1, [3008]⟩, ⟨0x13a0, 0x13ef, 1, [38864]⟩,
  ⟨0x13f0, 0x13f5, 1, [8]⟩, ⟨0x1c88, 0x1c88, 1, [35266, 35267]⟩, ⟨0x1c89, 0x1c89, 1, [1]⟩,
  ⟨0x1d79, 0x1d79, 1, [35332]⟩,
  ⟨0x1d7d, 0x1d7d, 1, [3814]⟩, ⟨0x1d8e, 0x1d8e, 1, [35384]⟩, ⟨0x1e00, 0x1e5e, 2, [1]⟩,
  ⟨0x1e60, 0x1e60, 1, [1, 59]⟩, ⟨0x1e62, 0x1e94, 2, [1]⟩, ⟨0x1ea0, 0x1efe, 2, [1]⟩,
  ⟨0x1f00, 0x1f07, 1, [8]⟩, ⟨0x1f10, 0x1f15, 1, [8]⟩, ⟨0x1f20, 0x1f27, 1, [8]⟩,
  ⟨0x1f30, 0x1f37, 1, [8]⟩, ⟨0x1f40, 0x1f45, 1, [8]⟩, ⟨0x1f51, 0x1f57, 2, [8]⟩,
  ⟨0x1f60, 0x1f67, 1, [8]⟩, ⟨0x1f70, 0x1f71, 1, [74]⟩, ⟨0x1f72, 0x1f75, 1, [86]⟩,
  ⟨0x1f76, 0x1f77, 1, [100]⟩, ⟨0x1f78, 0x1f79, 1, [128]⟩, ⟨0x1f7a, 0x1f7b, 1, [112]⟩,
  ⟨0x1f7c, 0x1f7d, 1, [126]⟩, ⟨0x1f80, 0x1f87, 1, [8]⟩, ⟨0x1f90, 0x1f97, 1, [8]⟩,
  ⟨0x1fa0, 0x1fa7, 1, [8]⟩, ⟨0x1fb0, 0x1fb1, 1, [8]⟩, ⟨0x1fb3, 0x1fb3, 1, [9]⟩,
  ⟨0x1fc3, 0x1fc3, 1, [9]⟩, ⟨0x1fd0, 0x1fd1, 1, [8]⟩, ⟨0x1fe0, 0x1fe1, 1, [8]⟩,
  ⟨0x1fe5, 0x1fe5, 1, [7]⟩, ⟨0x1ff3, 0x1ff3, 1, [9]⟩, ⟨0x2132, 0x2132, 1, [28]⟩,
  ⟨0x2160, 0x216f, 1, [16]⟩, ⟨0x2183, 0x2183, 1, [1]⟩, ⟨0x24b6, 0x24cf, 1, [26]⟩,
  ⟨0x2c00, 0x2c2f, 1, [48]⟩, ⟨0x2c60, 0x2c60, 1, [1]⟩, ⟨0x2c67, 0x2c6b, 2, [1]⟩,
  ⟨0x2c72, 0x2c72, 1, [1]⟩, ⟨0x2c75, 0x2c75, 1, [1]⟩, ⟨0x2c80, 0x2ce2, 2, [1]⟩,
  ⟨0x2ceb, 0x2ced, 2, [1]⟩, ⟨0x2cf2, 0x2cf2, 1, [1]⟩, ⟨0xa640, 0xa648, 2, [1]⟩,
  ⟨0xa64c, 0xa66c, 2, [1]⟩, ⟨0xa680, 0xa69a, 2, [1]⟩, ⟨0xa722, 0xa72e, 2, [1]⟩,
  ⟨0xa732, 0xa76e, 2, [1]⟩, ⟨0xa779, 0xa77b, 2, [1]⟩, ⟨0xa77e, 0xa786, 2, [1]⟩,
  ⟨0xa78b, 0xa78b, 1, [1]⟩, ⟨0xa790, 0xa792, 2, [1]⟩, ⟨0xa794, 0xa794, 1, [48]⟩,
  ⟨0xa796, 0xa7a8, 2, [1]⟩, ⟨0xa7b3, 0xa7b3, 1, [928]⟩, ⟨0xa7b4, 0xa7c2, 2, [1]⟩,
  ⟨0xa7c7, 0xa7c9, 2, [1]⟩, ⟨0xa7cc, 0xa7cc, 1, [1]⟩, ⟨0xa7d0, 0xa7d0, 1, [1]⟩,
  ⟨0xa7d6, 0xa7da, 2, [1]⟩, ⟨0xa7f5, 0xa7f5, 1, [1]⟩, ⟨0xfb05, 0xfb05, 1, [1]⟩,
  ⟨0xff21, 0xff3a, 1, [32]⟩, ⟨0x10400, 0x10427, 1, [40]⟩, ⟨0x104b0, 0x104d3, 1, [40]⟩,
  ⟨0x10570, 0x10594, 2, [39]⟩, ⟨0x10571, 0x10579, 2, [39]⟩, ⟨0x1057d, 0x10589, 2, [39]⟩,
  ⟨0x1058d, 0x10591, 2, [39]⟩, ⟨0x10595, 0x10595, 1, [39]⟩, ⟨0x10c80, 0x10cb2, 1, [64]⟩,
  ⟨0x10d50, 0x10d65, 1, [32]⟩, ⟨0x118a0, 0x118bf, 1, [32]⟩, ⟨0x16e40, 0x16e5f, 1, [32]⟩,
  ⟨0x1e900, 0x1e921, 1, [34]⟩]

namespace FamilyRun

/-- Whether `base` is the least member of a family of the run. -/
def startsAt (run : FamilyRun) (base : Nat) : Bool :=
  run.first ≤ base && base ≤ run.last && (base - run.first) % run.stride == 0

/-- The family of a code point, when the run holds it. -/
def family? (run : FamilyRun) (code : Nat) : Option (List Nat) :=
  (0 :: run.shifts).findSome? fun shift =>
    if shift ≤ code && run.startsAt (code - shift) then
      some ((0 :: run.shifts).map (code - shift + ·))
    else
      none

end FamilyRun

/-- The other case of an ASCII letter; every other character is left alone. -/
def swapAsciiCase (c : Char) : Char :=
  if 'a' ≤ c ∧ c ≤ 'z' then Char.ofNat (c.toNat - 32)
  else if 'A' ≤ c ∧ c ≤ 'Z' then Char.ofNat (c.toNat + 32)
  else c

/-- All characters that differ from `c` in case only, `c` among them. ASCII is
answered without the table. -/
def caseFamily (c : Char) : List Char :=
  if c.toNat < 128 then
    let others := if c = 'k' ∨ c = 'K' then ['\u212a']
      else if c = 's' ∨ c = 'S' then ['\u017f'] else []
    c :: swapAsciiCase c :: others
  else
    match familyRuns.findSome? (·.family? c.toNat) with
    | some codes => codes.map Char.ofNat
    | none => [c]

end Pattern
end FeatureScan
