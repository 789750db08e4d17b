import FeatureScan.Text.Base64
import FeatureScan.Text.Blank
import FeatureScan.Proofs.Text.Utf8

/-!
Bytes are read back from their symbols. Three bytes are four groups of six bits; one or two bytes
at the end are filled with zeros, which the reader asks for.
-/

namespace FeatureScan
namespace Text

/-- The groups of six bits that bytes are written as. -/
def sextets : List UInt8 → List Nat
  | [] => []
  | [a] => [a.toNat / 4, a.toNat % 4 * 16]
  | [a, b] => [a.toNat / 4, a.toNat % 4 * 16 + b.toNat / 16, b.toNat % 16 * 4]
  | a :: b :: c :: rest =>
      a.toNat / 4 :: (a.toNat % 4 * 16 + b.toNat / 16) :: (b.toNat % 16 * 4 + c.toNat / 64) ::
        c.toNat % 64 :: sextets rest

theorem encodeBase64_eq (bytes : List UInt8) : encodeBase64 bytes = (sextets bytes).map symbolOf := by
  induction bytes using sextets.induct with
  | case1 | case2 | case3 => rfl
  | case4 a b c rest ih => simp [encodeBase64, sextets, ih]

theorem sextets_lt (bytes : List UInt8) : ∀ n ∈ sextets bytes, n < 64 := by
  induction bytes using sextets.induct with
  | case1 => exact nofun
  | case2 a =>
      have ha := a.toNat_lt
      simp [sextets]
      omega
  | case3 a b =>
      have ha := a.toNat_lt
      have hb := b.toNat_lt
      simp [sextets]
      omega
  | case4 a b c rest ih =>
      have ha := a.toNat_lt
      have hb := b.toNat_lt
      have hc := c.toNat_lt
      simp only [sextets, List.forall_mem_cons]
      exact ⟨by omega, by omega, by omega, by omega, ih⟩

/-- No text of symbols has one symbol more than a multiple of four. -/
theorem length_sextets_mod (bytes : List UInt8) : (sextets bytes).length % 4 ≠ 1 := by
  induction bytes using sextets.induct with
  | case1 | case2 | case3 => simp [sextets]
  | case4 a b c rest ih =>
      simp only [sextets, List.length_cons]
      omega

/-- The bits that are put together again are those of each byte. -/
theorem joinBits_sextets (total : Nat) (last : Base64Fault) (bytes : List UInt8) :
    joinBits total last (sextets bytes) = .ok bytes := by
  induction bytes using sextets.induct with
  | case1 => rfl
  | case2 a =>
      have ha := a.toNat_lt
      have spare : a.toNat % 4 * 16 % 16 = 0 := by omega
      have first : a.toNat / 4 * 4 + a.toNat % 4 * 16 / 16 = a.toNat := by omega
      rw [sextets, joinBits, if_pos spare, first, UInt8.ofNat_toNat]
  | case3 a b =>
      have hb := b.toNat_lt
      have spare : b.toNat % 16 * 4 % 4 = 0 := by omega
      have first : a.toNat / 4 * 4 + (a.toNat % 4 * 16 + b.toNat / 16) / 16 = a.toNat := by omega
      have second : (a.toNat % 4 * 16 + b.toNat / 16) % 16 * 16 + b.toNat % 16 * 4 / 4 =
          b.toNat := by omega
      rw [sextets, joinBits, if_pos spare, first, second, UInt8.ofNat_toNat, UInt8.ofNat_toNat]
  | case4 a b c rest ih =>
      have hb := b.toNat_lt
      have hc := c.toNat_lt
      have first : a.toNat / 4 * 4 + (a.toNat % 4 * 16 + b.toNat / 16) / 16 = a.toNat := by omega
      have second : (a.toNat % 4 * 16 + b.toNat / 16) % 16 * 16 +
          (b.toNat % 16 * 4 + c.toNat / 64) / 4 = b.toNat := by omega
      have third : (b.toNat % 16 * 4 + c.toNat / 64) % 4 * 64 + c.toNat % 64 = c.toNat := by omega
      rw [sextets, joinBits, ih, first, second, third]
      simp [Except.map]

/-- A symbol is an ASCII character that stands for itself in an address, and its byte tells its
six bits. -/
structure IsSymbol (c : Char) : Prop where
  ascii : c.toNat < 0x80
  not_blank : isBlank c = false
  not_mark : c ≠ '#' ∧ c ≠ '&' ∧ c ≠ '='

theorem isSymbol_symbolOf {n : Nat} (h : n < 64) : IsSymbol (symbolOf n) := by
  have table : ∀ n < 64, (symbolOf n).toNat < 0x80 ∧ isBlank (symbolOf n) = false ∧
      symbolOf n ≠ '#' ∧ symbolOf n ≠ '&' ∧ symbolOf n ≠ '=' := by decide
  obtain ⟨ascii, not_blank, not_mark⟩ := table n h
  exact ⟨ascii, not_blank, not_mark⟩

theorem isSymbol_of_mem_encodeBase64 {bytes : List UInt8} : ∀ c ∈ encodeBase64 bytes, IsSymbol c := by
  intro c hc
  rw [encodeBase64_eq] at hc
  obtain ⟨n, mem, rfl⟩ := List.mem_map.mp hc
  exact isSymbol_symbolOf (sextets_lt bytes n mem)

theorem bitsOf?_symbolOf : ∀ n < 64, bitsOf? (UInt8.ofNat (symbolOf n).toNat) = some n := by
  decide

theorem symbolBits_symbolOf {bits : List Nat} (small : ∀ n ∈ bits, n < 64) (i : Nat) :
    symbolBits i (bits.map fun n => UInt8.ofNat (symbolOf n).toNat) = .ok bits := by
  induction bits generalizing i with
  | nil => rfl
  | cons n rest ih =>
      obtain ⟨first, others⟩ := List.forall_mem_cons.mp small
      simp only [List.map_cons, symbolBits, bitsOf?_symbolOf n first, ih others]
      rfl

theorem encodeUtf8_encodeBase64 (bytes : List UInt8) :
    encodeUtf8 (encodeBase64 bytes) =
      (sextets bytes).map fun n => UInt8.ofNat (symbolOf n).toNat := by
  rw [encodeUtf8_of_ascii fun c hc => (isSymbol_of_mem_encodeBase64 c hc).ascii,
    encodeBase64_eq, List.map_map]
  rfl

theorem decodeBase64_encodeBase64 (bytes : List UInt8) :
    decodeBase64 (encodeUtf8 (encodeBase64 bytes)) = .ok bytes := by
  have whole : ¬ ((sextets bytes).length % 4 = 1 ∧
      (bitsOf? (((sextets bytes).map fun n => UInt8.ofNat (symbolOf n).toNat).getLastD 0)).isNone) :=
    fun odd => length_sextets_mod bytes odd.1
  simp only [decodeBase64, encodeUtf8_encodeBase64, List.length_map, if_neg whole,
    symbolBits_symbolOf (sextets_lt bytes)]
  exact joinBits_sextets _ _ bytes

end Text
end FeatureScan
