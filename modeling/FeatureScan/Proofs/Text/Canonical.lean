import FeatureScan.Proofs.Text.Base64

/-!
Only what was written is read. Bytes are taken for a text only if they are the bytes of that text,
and symbols for bytes only if they are the symbols of those bytes: no second form of a character
or of a group of bits is accepted.
-/

namespace FeatureScan
namespace Text

theorem val_ofNat {n : Nat} (valid : n.isValidChar) : (Char.ofNat n).val.toNat = n := by
  rw [Char.ofNat, dif_pos valid]
  rfl

section

variable {n : Nat}

theorem encodeChar_one (high : n < 0x80) :
    String.utf8EncodeChar (Char.ofNat n) = [UInt8.ofNat n] := by
  have code : (Char.ofNat n).val.toNat = n := val_ofNat (.inl (by omega))
  simp only [String.utf8EncodeChar, code]
  exact if_pos (by omega)

theorem encodeChar_two (low : 0x80 ≤ n) (high : n < 0x800) :
    String.utf8EncodeChar (Char.ofNat n) = [UInt8.ofNat (n / 64 % 32 + 192), followerOf n] := by
  have code : (Char.ofNat n).val.toNat = n := val_ofNat (.inl (by omega))
  simp only [String.utf8EncodeChar, code]
  rw [if_neg (by omega), if_pos (by omega)]
  rfl

theorem encodeChar_three (low : 0x800 ≤ n) (high : n < 0x10000) (valid : n < 0xd800 ∨ 0xdfff < n) :
    String.utf8EncodeChar (Char.ofNat n) =
      [UInt8.ofNat (n / 4096 % 16 + 224), followerOf (n / 64), followerOf n] := by
  have code : (Char.ofNat n).val.toNat = n :=
    val_ofNat (valid.imp_right fun above => ⟨above, by omega⟩)
  simp only [String.utf8EncodeChar, code]
  rw [if_neg (by omega), if_neg (by omega), if_pos (by omega)]
  rfl

theorem encodeChar_four (low : 0x10000 ≤ n) (high : n < 0x110000) :
    String.utf8EncodeChar (Char.ofNat n) =
      [UInt8.ofNat (n / 262144 % 8 + 240), followerOf (n / 4096), followerOf (n / 64),
        followerOf n] := by
  have code : (Char.ofNat n).val.toNat = n := val_ofNat (.inr ⟨by omega, high⟩)
  simp only [String.utf8EncodeChar, code]
  rw [if_neg (by omega), if_neg (by omega), if_neg (by omega)]
  rfl

end

section

variable {a b c d : UInt8}

theorem followerBits_lt (b : UInt8) : followerBits b < 64 := Nat.mod_lt _ (by decide)

theorem followerOf_bits (follows : isFollower b = true) (m : Nat) :
    followerOf (m * 64 + followerBits b) = b := by
  have bounds : 128 ≤ b.toNat ∧ b.toNat ≤ 191 := between_iff.mp follows
  rw [← UInt8.toNat_inj, toNat_followerOf, followerBits]
  omega

theorem ofNat_eq {n : Nat} (same : n = a.toNat) : UInt8.ofNat n = a := by
  rw [same, UInt8.ofNat_toNat]

/-- A second byte of three is a follower that makes the code neither needlessly long nor one of a
surrogate. -/
theorem secondOfThree_bounds (second : secondOfThree a b = true) :
    isFollower b = true ∧ (a.toNat = 0xe0 → 32 ≤ followerBits b) ∧
      (a.toNat = 0xed → followerBits b < 32) := by
  rw [secondOfThree] at second
  split at second
  next first =>
    have bounds : 160 ≤ b.toNat ∧ b.toNat ≤ 191 := between_iff.mp second
    subst first
    refine ⟨between_iff.mpr ⟨?_, bounds.2⟩, ?_, fun same => absurd same (by decide)⟩
    · exact Nat.le_trans (by decide) bounds.1
    · rw [followerBits]
      omega
  next not_least =>
    have other : a.toNat ≠ 0xe0 := fun same => not_least (UInt8.toNat_inj.mp same)
    split at second
    next first =>
      have bounds : 128 ≤ b.toNat ∧ b.toNat ≤ 159 := between_iff.mp second
      refine ⟨between_iff.mpr ⟨bounds.1, ?_⟩, fun same => absurd same other, ?_⟩
      · exact Nat.le_trans bounds.2 (by decide)
      · rw [followerBits]
        omega
    next not_before =>
      exact ⟨second, fun same => absurd same other,
        fun same => absurd (UInt8.toNat_inj.mp same) not_before⟩

/-- A second byte of four is a follower that makes the code neither needlessly long nor greater
than any. -/
theorem secondOfFour_bounds (second : secondOfFour a b = true) :
    isFollower b = true ∧ (a.toNat = 0xf0 → 16 ≤ followerBits b) ∧
      (a.toNat = 0xf4 → followerBits b < 16) := by
  rw [secondOfFour] at second
  split at second
  next first =>
    have bounds : 144 ≤ b.toNat ∧ b.toNat ≤ 191 := between_iff.mp second
    subst first
    refine ⟨between_iff.mpr ⟨?_, bounds.2⟩, ?_, fun same => absurd same (by decide)⟩
    · exact Nat.le_trans (by decide) bounds.1
    · rw [followerBits]
      omega
  next not_least =>
    have other : a.toNat ≠ 0xf0 := fun same => not_least (UInt8.toNat_inj.mp same)
    split at second
    next first =>
      have bounds : 128 ≤ b.toNat ∧ b.toNat ≤ 143 := between_iff.mp second
      refine ⟨between_iff.mpr ⟨bounds.1, ?_⟩, fun same => absurd same other, ?_⟩
      · exact Nat.le_trans bounds.2 (by decide)
      · rw [followerBits]
        omega
    next not_greatest =>
      exact ⟨second, fun same => absurd same other,
        fun same => absurd (UInt8.toNat_inj.mp same) not_greatest⟩

theorem encodeChar_of_two (first : (decide (0xc2 ≤ a) && decide (a ≤ 0xdf)) = true)
    (hb : isFollower b = true) :
    String.utf8EncodeChar (Char.ofNat (a.toNat % 32 * 64 + followerBits b)) = [a, b] := by
  have bounds : 194 ≤ a.toNat ∧ a.toNat ≤ 223 := between_iff.mp first
  have small := followerBits_lt b
  rw [encodeChar_two (by omega) (by omega), followerOf_bits hb, ofNat_eq (a := a) (by omega)]

theorem encodeChar_of_three (first : (decide (0xe0 ≤ a) && decide (a ≤ 0xef)) = true)
    (hb : secondOfThree a b = true) (hc : isFollower c = true) :
    String.utf8EncodeChar
        (Char.ofNat ((a.toNat % 16 * 64 + followerBits b) * 64 + followerBits c)) = [a, b, c] := by
  have bounds : 224 ≤ a.toNat ∧ a.toNat ≤ 239 := between_iff.mp first
  obtain ⟨follows, short, surrogate⟩ := secondOfThree_bounds hb
  have small_b := followerBits_lt b
  have small_c := followerBits_lt c
  have front : ((a.toNat % 16 * 64 + followerBits b) * 64 + followerBits c) / 64 =
      a.toNat % 16 * 64 + followerBits b := by omega
  rw [encodeChar_three (by omega) (by omega) (by omega), followerOf_bits hc, front,
    followerOf_bits follows, ofNat_eq (a := a) (by omega)]

theorem encodeChar_of_four (first : (decide (0xf0 ≤ a) && decide (a ≤ 0xf4)) = true)
    (hb : secondOfFour a b = true) (hc : isFollower c = true) (hd : isFollower d = true) :
    String.utf8EncodeChar
        (Char.ofNat (((a.toNat % 8 * 64 + followerBits b) * 64 + followerBits c) * 64 +
          followerBits d)) = [a, b, c, d] := by
  have bounds : 240 ≤ a.toNat ∧ a.toNat ≤ 244 := between_iff.mp first
  obtain ⟨follows, short, greatest⟩ := secondOfFour_bounds hb
  have small_b := followerBits_lt b
  have small_c := followerBits_lt c
  have small_d := followerBits_lt d
  have front : (((a.toNat % 8 * 64 + followerBits b) * 64 + followerBits c) * 64 +
      followerBits d) / 64 = (a.toNat % 8 * 64 + followerBits b) * 64 + followerBits c := by omega
  have top : (((a.toNat % 8 * 64 + followerBits b) * 64 + followerBits c) * 64 +
      followerBits d) / 4096 = a.toNat % 8 * 64 + followerBits b := by omega
  rw [encodeChar_four (by omega) (by omega), followerOf_bits hd, front, followerOf_bits hc, top,
    followerOf_bits follows, ofNat_eq (a := a) (by omega)]

end

/-- Bytes are only read as the text that they were written for. -/
theorem encodeUtf8_of_decodeUtf8From {i : Nat} {bytes : List UInt8} {s : List Char}
    (h : decodeUtf8From i bytes = .ok s) : encodeUtf8 s = bytes := by
  have step {c : Char} {front rest : List UInt8} {read : Except Utf8Fault (List Char)}
      (char : String.utf8EncodeChar c = front) (ih : ∀ t, read = .ok t → encodeUtf8 t = rest)
      {t : List Char} (taken : read.map (c :: ·) = .ok t) : encodeUtf8 t = front ++ rest := by
    obtain ⟨later, ok, rfl⟩ := map_eq_ok.mp taken
    rw [encodeUtf8, List.flatMap_cons, ← encodeUtf8, char, ih later ok]
  fun_induction decodeUtf8From i bytes generalizing s with
  | case1 =>
      cases h
      rfl
  | case2 i a rest ascii ih =>
      have one := encodeChar_one (UInt8.lt_iff_toNat_lt.mp ascii)
      rw [UInt8.ofNat_toNat] at one
      exact step one (fun t => ih) h
  | case4 i a _ first b rest hb ih => exact step (encodeChar_of_two first hb) (fun t => ih) h
  | case8 i a _ _ first b hb c rest hc ih =>
      exact step (encodeChar_of_three first hb hc) (fun t => ih) h
  | case14 i a _ _ _ first b hb c hc d rest hd ih =>
      exact step (encodeChar_of_four first hb hc hd) (fun t => ih) h
  | case3 | case5 | case6 | case7 | case9 | case10 | case11 | case12 | case13 | case15 | case16
  | case17 | case18 => cases h

theorem encodeUtf8_injective : Function.Injective encodeUtf8 := by
  intro s t same
  have read := decodeUtf8From_encodeUtf8 0 t
  rw [← same, decodeUtf8From_encodeUtf8] at read
  exact Except.ok.inj read

theorem decodeUtf8_eq_ok {bytes : List UInt8} {s : String} :
    decodeUtf8 bytes = .ok s ↔ bytes = encodeUtf8 s.toList := by
  constructor
  · intro h
    obtain ⟨chars, ok, rfl⟩ := map_eq_ok.mp h
    rw [String.toList_ofList, encodeUtf8_of_decodeUtf8From ok]
  · rintro rfl
    exact decodeUtf8_encodeUtf8 s

theorem symbol_of_bitsOf? : ∀ n < 256, ∀ bits, bitsOf? (UInt8.ofNat n) = some bits →
    bits < 64 ∧ UInt8.ofNat (symbolOf bits).toNat = UInt8.ofNat n := by
  decide +kernel

theorem bitsOf?_eq_some {byte : UInt8} {bits : Nat} (h : bitsOf? byte = some bits) :
    bits < 64 ∧ UInt8.ofNat (symbolOf bits).toNat = byte := by
  have table := symbol_of_bitsOf? byte.toNat byte.toNat_lt bits
  rw [UInt8.ofNat_toNat] at table
  exact table h

theorem symbolBits_eq_ok {i : Nat} {text : List UInt8} {bits : List Nat}
    (h : symbolBits i text = .ok bits) :
    (∀ n ∈ bits, n < 64) ∧ bits.map (fun n => UInt8.ofNat (symbolOf n).toNat) = text := by
  induction text generalizing i bits with
  | nil =>
      cases h
      simp
  | cons byte rest ih =>
      rw [symbolBits] at h
      split at h
      next n is =>
        obtain ⟨others, ok, rfl⟩ := map_eq_ok.mp h
        obtain ⟨small, same⟩ := bitsOf?_eq_some is
        obtain ⟨small_others, same_others⟩ := ih ok
        exact ⟨List.forall_mem_cons.mpr ⟨small, small_others⟩,
          by rw [List.map_cons, same, same_others]⟩
      next => cases h

theorem sextets_of_joinBits {total : Nat} {last : Base64Fault} {bits : List Nat}
    (small : ∀ n ∈ bits, n < 64) {bytes : List UInt8}
    (h : joinBits total last bits = .ok bytes) : sextets bytes = bits := by
  fun_induction joinBits total last bits generalizing bytes with
  | case1 =>
      cases h
      rfl
  | case3 a b spare =>
      cases h
      simp only [List.forall_mem_cons] at small
      obtain ⟨ha, hb, _⟩ := small
      simp only [sextets, toNat_byte (n := a * 4 + b / 16) (by omega), List.cons.injEq, and_true]
      omega
  | case5 a b c spare =>
      cases h
      simp only [List.forall_mem_cons] at small
      obtain ⟨ha, hb, hc, _⟩ := small
      simp only [sextets, toNat_byte (n := a * 4 + b / 16) (by omega),
        toNat_byte (n := b % 16 * 16 + c / 4) (by omega), List.cons.injEq, and_true]
      omega
  | case7 a b c d rest ih =>
      simp only [List.forall_mem_cons] at small
      obtain ⟨ha, hb, hc, hd, others⟩ := small
      obtain ⟨later, ok, rfl⟩ := map_eq_ok.mp h
      simp only [sextets, toNat_byte (n := a * 4 + b / 16) (by omega),
        toNat_byte (n := b % 16 * 16 + c / 4) (by omega),
        toNat_byte (n := c % 4 * 64 + d) (by omega), ih others ok, List.cons.injEq, and_true]
      omega
  | case2 | case4 | case6 => cases h

/-- Symbols that bytes can have: not one more than a multiple of four, and the bits that the last
one has to spare are zero. -/
structure IsBase64 (text : List Char) : Prop where
  symbols : ∀ c ∈ text, ∃ n < 64, symbolOf n = c
  length : text.length % 4 ≠ 1
  spare : ∀ n < 64, text.getLast? = some (symbolOf n) →
    (text.length % 4 = 2 → n % 16 = 0) ∧ (text.length % 4 = 3 → n % 4 = 0)

theorem exists_joinBits (total : Nat) (last : Base64Fault) {bits : List Nat}
    (length : bits.length % 4 ≠ 1)
    (spare : ∀ n, bits.getLast? = some n →
      (bits.length % 4 = 2 → n % 16 = 0) ∧ (bits.length % 4 = 3 → n % 4 = 0)) :
    ∃ bytes, joinBits total last bits = .ok bytes := by
  fun_induction joinBits total last bits with
  | case1 | case3 | case5 => exact ⟨_, rfl⟩
  | case2 => exact absurd rfl length
  | case4 a b set => exact absurd ((spare b rfl).1 rfl) set
  | case6 a b c set => exact absurd ((spare c rfl).2 rfl) set
  | case7 a b c d rest ih =>
      have four : (a :: b :: c :: d :: rest).length % 4 = rest.length % 4 :=
        Nat.add_mod_right rest.length 4
      rw [four] at length spare
      obtain ⟨bytes, joined⟩ := ih length fun n ends => spare n (by simp [List.getLast?_cons, ends])
      exact ⟨_, map_eq_ok.mpr ⟨bytes, joined, rfl⟩⟩

theorem exists_bits {text : List Char} (symbols : ∀ c ∈ text, ∃ n < 64, symbolOf n = c) :
    ∃ bits : List Nat, (∀ n ∈ bits, n < 64) ∧ bits.map symbolOf = text := by
  induction text with
  | nil => exact ⟨[], nofun, rfl⟩
  | cons c rest ih =>
      obtain ⟨⟨n, small, rfl⟩, others⟩ := List.forall_mem_cons.mp symbols
      obtain ⟨bits, small_bits, rfl⟩ := ih others
      exact ⟨n :: bits, List.forall_mem_cons.mpr ⟨small, small_bits⟩, rfl⟩

theorem spare_sextets (bytes : List UInt8) (n : Nat) (ends : (sextets bytes).getLast? = some n) :
    ((sextets bytes).length % 4 = 2 → n % 16 = 0) ∧
      ((sextets bytes).length % 4 = 3 → n % 4 = 0) := by
  induction bytes using sextets.induct with
  | case1 => cases ends
  | case2 a =>
      cases ends
      simp [sextets]
  | case3 a b =>
      cases ends
      simp [sextets]
  | case4 a b c rest ih =>
      rw [sextets] at ends ⊢
      have four (w x y z : Nat) : (w :: x :: y :: z :: sextets rest).length % 4 =
          (sextets rest).length % 4 := Nat.add_mod_right _ 4
      rw [four]
      cases more : (sextets rest).getLast? with
      | none =>
          rw [List.getLast?_eq_none_iff.mp more]
          exact ⟨fun two => absurd two (by decide), fun three => absurd three (by decide)⟩
      | some m =>
          simp only [List.getLast?_cons, more, Option.getD_some] at ends
          exact ih (more.trans ends)

/-- The texts of bytes are those of their form. -/
theorem isBase64_iff {text : List Char} :
    IsBase64 text ↔ ∃ bytes, text = encodeBase64 bytes := by
  constructor
  · intro form
    obtain ⟨bits, small, rfl⟩ := exists_bits form.symbols
    have length : bits.length % 4 ≠ 1 := by simpa using form.length
    have spare : ∀ n, bits.getLast? = some n →
        (bits.length % 4 = 2 → n % 16 = 0) ∧ (bits.length % 4 = 3 → n % 4 = 0) := by
      intro n ends
      have last := form.spare n (small n (List.mem_of_getLast? ends)) (by simp [ends])
      simpa using last
    obtain ⟨bytes, joined⟩ := exists_joinBits 0 (.length 0) length spare
    exact ⟨bytes, by rw [encodeBase64_eq, sextets_of_joinBits small joined]⟩
  · rintro ⟨bytes, rfl⟩
    rw [encodeBase64_eq]
    constructor
    · intro c hc
      obtain ⟨n, mem, rfl⟩ := List.mem_map.mp hc
      exact ⟨n, sextets_lt bytes n mem, rfl⟩
    · simpa using length_sextets_mod bytes
    · intro n small ends
      simp only [List.getLast?_map, Option.map_eq_some_iff] at ends
      obtain ⟨m, ends, same⟩ := ends
      have bits := bitsOf?_symbolOf m (sextets_lt bytes m (List.mem_of_getLast? ends))
      rw [same, bitsOf?_symbolOf n small] at bits
      cases bits
      simpa using spare_sextets bytes n ends

theorem encodeBase64_injective : Function.Injective encodeBase64 := by
  intro bytes bytes' same
  have read := decodeBase64_encodeBase64 bytes
  rw [same, decodeBase64_encodeBase64] at read
  exact (Except.ok.inj read).symm

theorem encodeBase64_of_decodeBase64 {text bytes : List UInt8}
    (h : decodeBase64 text = .ok bytes) : encodeUtf8 (encodeBase64 bytes) = text := by
  rw [decodeBase64] at h
  dsimp only at h
  split at h
  · cases h
  · obtain ⟨bits, ok, joined⟩ := bind_eq_ok.mp h
    obtain ⟨small, same⟩ := symbolBits_eq_ok ok
    rw [encodeUtf8_encodeBase64, sextets_of_joinBits small joined, same]

end Text
end FeatureScan
