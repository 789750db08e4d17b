import FeatureScan.Text.Utf8
import FeatureScan.Proofs.Outcome

/-!
Every text is read back from its bytes. The decoder tells characters of one to four bytes apart
by the first byte, so there is one step lemma for each number of bytes.
-/

namespace FeatureScan
namespace Text

theorem between_iff {low a high : UInt8} :
    (decide (low ≤ a) && decide (a ≤ high)) = true ↔
      low.toNat ≤ a.toNat ∧ a.toNat ≤ high.toNat := by
  simp [UInt8.le_iff_toNat_le]

section

variable {a b c d : UInt8} (i : Nat) (rest : List UInt8)

theorem decodeUtf8From_one (ha : a.toNat < 0x80) :
    decodeUtf8From i (a :: rest) = (decodeUtf8From (i + 1) rest).map (Char.ofNat a.toNat :: ·) := by
  rw [decodeUtf8From.eq_def]
  exact if_pos (UInt8.lt_iff_toNat_lt.mpr ha)

theorem not_ascii (ha : 0x80 ≤ a.toNat) : ¬ a < 0x80 :=
  fun small => Nat.not_lt.mpr ha (UInt8.lt_iff_toNat_lt.mp small)

theorem decodeUtf8From_two (low : 0xc2 ≤ a.toNat) (high : a.toNat ≤ 0xdf)
    (hb : isFollower b = true) :
    decodeUtf8From i (a :: b :: rest) =
      (decodeUtf8From (i + 2) rest).map
        (Char.ofNat (a.toNat % 32 * 64 + followerBits b) :: ·) := by
  have two : (decide (0xc2 ≤ a) && decide (a ≤ 0xdf)) = true := between_iff.mpr ⟨low, high⟩
  rw [decodeUtf8From.eq_def]
  dsimp only
  rw [if_neg (not_ascii (Nat.le_trans (by decide) low)), if_pos two, if_pos hb]

theorem decodeUtf8From_three (low : 0xe0 ≤ a.toNat) (high : a.toNat ≤ 0xef)
    (hb : secondOfThree a b = true) (hc : isFollower c = true) :
    decodeUtf8From i (a :: b :: c :: rest) =
      (decodeUtf8From (i + 3) rest).map
        (Char.ofNat ((a.toNat % 16 * 64 + followerBits b) * 64 + followerBits c) :: ·) := by
  have not_two : ¬ (decide (0xc2 ≤ a) && decide (a ≤ 0xdf)) = true :=
    fun two => absurd (between_iff.mp two).2 (Nat.not_le.mpr low)
  have three : (decide (0xe0 ≤ a) && decide (a ≤ 0xef)) = true := between_iff.mpr ⟨low, high⟩
  rw [decodeUtf8From.eq_def]
  dsimp only
  rw [if_neg (not_ascii (Nat.le_trans (by decide) low)), if_neg not_two, if_pos three, if_pos hb,
    if_pos hc]

theorem decodeUtf8From_four (low : 0xf0 ≤ a.toNat) (high : a.toNat ≤ 0xf4)
    (hb : secondOfFour a b = true) (hc : isFollower c = true) (hd : isFollower d = true) :
    decodeUtf8From i (a :: b :: c :: d :: rest) =
      (decodeUtf8From (i + 4) rest).map
        (Char.ofNat (((a.toNat % 8 * 64 + followerBits b) * 64 + followerBits c) * 64 +
          followerBits d) :: ·) := by
  have not_two : ¬ (decide (0xc2 ≤ a) && decide (a ≤ 0xdf)) = true :=
    fun two => absurd (between_iff.mp two).2 (Nat.not_le.mpr (Nat.le_trans (by decide) low))
  have not_three : ¬ (decide (0xe0 ≤ a) && decide (a ≤ 0xef)) = true :=
    fun three => absurd (between_iff.mp three).2 (Nat.not_le.mpr low)
  have four : (decide (0xf0 ≤ a) && decide (a ≤ 0xf4)) = true := between_iff.mpr ⟨low, high⟩
  rw [decodeUtf8From.eq_def]
  dsimp only
  rw [if_neg (not_ascii (Nat.le_trans (by decide) low)), if_neg not_two, if_neg not_three,
    if_pos four, if_pos hb, if_pos hc, if_pos hd]

end

theorem toNat_byte {n : Nat} (h : n < 256) : (UInt8.ofNat n).toNat = n :=
  UInt8.toNat_ofNat_of_lt' h

/-- The byte that carries the last six bits of a number, behind the first byte of a character. -/
def followerOf (n : Nat) : UInt8 := UInt8.ofNat (n % 64 + 128)

theorem toNat_followerOf (n : Nat) : (followerOf n).toNat = n % 64 + 128 := toNat_byte (by omega)

@[simp] theorem followerBits_followerOf (n : Nat) : followerBits (followerOf n) = n % 64 := by
  rw [followerBits, toNat_followerOf]
  omega

theorem followerOf_between {low high : UInt8} {n : Nat} (above : low.toNat ≤ n % 64 + 128)
    (below : n % 64 + 128 ≤ high.toNat) :
    (decide (low ≤ followerOf n) && decide (followerOf n ≤ high)) = true := by
  rw [between_iff, toNat_followerOf]
  exact ⟨above, below⟩

@[simp] theorem isFollower_followerOf (n : Nat) : isFollower (followerOf n) = true := by
  have bits : n % 64 < 64 := Nat.mod_lt n (by decide)
  exact followerOf_between (Nat.le_add_left 128 _) (Nat.le_of_lt_succ (Nat.add_lt_add_right bits 128))

/-- A second byte is refused that makes the code needlessly long or one of a surrogate. -/
theorem secondOfThree_followerOf {a : UInt8} {n : Nat} (short : a = 0xe0 → 32 ≤ n % 64)
    (surrogate : a = 0xed → n % 64 < 32) : secondOfThree a (followerOf n) = true := by
  have bits : n % 64 < 64 := Nat.mod_lt n (by decide)
  rw [secondOfThree]
  split
  next first => exact followerOf_between (Nat.add_le_add_right (short first) 128) (by simp; omega)
  next =>
    split
    next first => exact followerOf_between (by simp) (by have := surrogate first; simp; omega)
    next => exact isFollower_followerOf n

/-- A second byte is refused that makes the code needlessly long or greater than any. -/
theorem secondOfFour_followerOf {a : UInt8} {n : Nat} (short : a = 0xf0 → 16 ≤ n % 64)
    (greatest : a = 0xf4 → n % 64 < 16) : secondOfFour a (followerOf n) = true := by
  have bits : n % 64 < 64 := Nat.mod_lt n (by decide)
  rw [secondOfFour]
  split
  next first => exact followerOf_between (Nat.add_le_add_right (short first) 128) (by simp; omega)
  next =>
    split
    next first => exact followerOf_between (by simp) (by have := greatest first; simp; omega)
    next => exact isFollower_followerOf n

section

variable {n : Nat} (i : Nat) (rest : List UInt8)

theorem decodeUtf8From_codeOfOne (high : n < 0x80) :
    decodeUtf8From i (UInt8.ofNat n :: rest) =
      (decodeUtf8From (i + 1) rest).map (Char.ofNat n :: ·) := by
  have first := toNat_byte (n := n) (by omega)
  have step := decodeUtf8From_one i rest (a := UInt8.ofNat n) (by omega)
  rwa [first] at step

theorem decodeUtf8From_codeOfTwo (low : 0x80 ≤ n) (high : n < 0x800) :
    decodeUtf8From i (UInt8.ofNat (n / 64 % 32 + 192) :: followerOf n :: rest) =
      (decodeUtf8From (i + 2) rest).map (Char.ofNat n :: ·) := by
  have first := toNat_byte (n := n / 64 % 32 + 192) (by omega)
  have step := decodeUtf8From_two i rest (a := UInt8.ofNat (n / 64 % 32 + 192))
    (by omega) (by omega) (isFollower_followerOf n)
  have value : (n / 64 % 32 + 192) % 32 * 64 + n % 64 = n := by omega
  rwa [first, followerBits_followerOf, value] at step

theorem decodeUtf8From_codeOfThree (low : 0x800 ≤ n) (high : n < 0x10000)
    (valid : n < 0xd800 ∨ 0xdfff < n) :
    decodeUtf8From i
        (UInt8.ofNat (n / 4096 % 16 + 224) :: followerOf (n / 64) :: followerOf n :: rest) =
      (decodeUtf8From (i + 3) rest).map (Char.ofNat n :: ·) := by
  have first := toNat_byte (n := n / 4096 % 16 + 224) (by omega)
  have second : secondOfThree (UInt8.ofNat (n / 4096 % 16 + 224)) (followerOf (n / 64)) = true := by
    apply secondOfThree_followerOf
    · intro same
      have least : n / 4096 % 16 + 224 = 0xe0 := first.symm.trans (congrArg UInt8.toNat same)
      omega
    · intro same
      have before : n / 4096 % 16 + 224 = 0xed := first.symm.trans (congrArg UInt8.toNat same)
      omega
  have step := decodeUtf8From_three i rest (a := UInt8.ofNat (n / 4096 % 16 + 224))
    (by omega) (by omega) second (isFollower_followerOf n)
  have value : ((n / 4096 % 16 + 224) % 16 * 64 + n / 64 % 64) * 64 + n % 64 = n := by omega
  rwa [first, followerBits_followerOf, followerBits_followerOf, value] at step

theorem decodeUtf8From_codeOfFour (low : 0x10000 ≤ n) (high : n < 0x110000) :
    decodeUtf8From i
        (UInt8.ofNat (n / 262144 % 8 + 240) :: followerOf (n / 4096) :: followerOf (n / 64) ::
          followerOf n :: rest) =
      (decodeUtf8From (i + 4) rest).map (Char.ofNat n :: ·) := by
  have first := toNat_byte (n := n / 262144 % 8 + 240) (by omega)
  have second : secondOfFour (UInt8.ofNat (n / 262144 % 8 + 240)) (followerOf (n / 4096)) =
      true := by
    apply secondOfFour_followerOf
    · intro same
      have least : n / 262144 % 8 + 240 = 0xf0 := first.symm.trans (congrArg UInt8.toNat same)
      omega
    · intro same
      have greatest : n / 262144 % 8 + 240 = 0xf4 := first.symm.trans (congrArg UInt8.toNat same)
      omega
  have step := decodeUtf8From_four i rest (a := UInt8.ofNat (n / 262144 % 8 + 240))
    (by omega) (by omega) second (isFollower_followerOf (n / 64)) (isFollower_followerOf n)
  have value : (((n / 262144 % 8 + 240) % 8 * 64 + n / 4096 % 64) * 64 + n / 64 % 64) * 64 +
      n % 64 = n := by omega
  rwa [first, followerBits_followerOf, followerBits_followerOf, followerBits_followerOf,
    value] at step

end

/-- The decoder takes one character from the bytes that were written for it. -/
theorem decodeUtf8From_encodeChar (i : Nat) (c : Char) (rest : List UInt8) :
    decodeUtf8From i (String.utf8EncodeChar c ++ rest) =
      (decodeUtf8From (i + (String.utf8EncodeChar c).length) rest).map (c :: ·) := by
  obtain ⟨n, code⟩ : ∃ n, c.val.toNat = n := ⟨_, rfl⟩
  have valid : n < 0xd800 ∨ 0xdfff < n ∧ n < 0x110000 := code ▸ c.valid
  have char : Char.ofNat n = c := code ▸ Char.ofNat_toNat c
  simp only [String.utf8EncodeChar, code]
  rw [← char]
  split
  next => exact decodeUtf8From_codeOfOne i rest (by omega)
  next =>
    split
    next => exact decodeUtf8From_codeOfTwo i rest (by omega) (by omega)
    next =>
      split
      next => exact decodeUtf8From_codeOfThree i rest (by omega) (by omega) (by omega)
      next => exact decodeUtf8From_codeOfFour i rest (by omega) (by omega)

theorem decodeUtf8From_encodeUtf8 (i : Nat) (s : List Char) :
    decodeUtf8From i (encodeUtf8 s) = .ok s := by
  induction s generalizing i with
  | nil => rfl
  | cons c rest ih =>
      rw [encodeUtf8, List.flatMap_cons, decodeUtf8From_encodeChar, ← encodeUtf8, ih]
      rfl

theorem decodeUtf8_encodeUtf8 (s : String) : decodeUtf8 (encodeUtf8 s.toList) = .ok s := by
  rw [decodeUtf8, decodeUtf8From_encodeUtf8, Except.map, String.ofList_toList]

/-- An ASCII character is its own byte. -/
theorem encodeUtf8_of_ascii {s : List Char} (ascii : ∀ c ∈ s, c.toNat < 0x80) :
    encodeUtf8 s = s.map fun c => UInt8.ofNat c.toNat := by
  induction s with
  | nil => rfl
  | cons c rest ih =>
      obtain ⟨small, others⟩ := List.forall_mem_cons.mp ascii
      have one : String.utf8EncodeChar c = [UInt8.ofNat c.toNat] := if_pos (Nat.le_of_lt_succ small)
      rw [encodeUtf8, List.flatMap_cons, ← encodeUtf8, ih others, one]
      rfl

end Text
end FeatureScan
