import FeatureScan.Proofs.ShareLinks
import FeatureScan.Proofs.Text.Canonical
import Mathlib.Data.List.DropRight

/-!
Each snippet has one payload. A link is read exactly if the value of its first parameter `code` is
the payload of a snippet, up to equals signs at its end; whatever else stands there is refused.
-/

namespace FeatureScan
namespace ShareLink

open Text (encodeBase64 encodeUtf8 IsBase64 pieces)

/-- What the parameters of a text stand in: what follows its first number sign, or all of it. -/
inductive Fragment : String → String → Prop
  | marked {front : String} (fragment : String) (unmarked : '#' ∉ front.toList) :
      Fragment (front ++ "#" ++ fragment) fragment
  | whole {text : String} (unmarked : '#' ∉ text.toList) : Fragment text text

/-- The value belongs to the first parameter `code` of a link. Parameters stand between
ampersands, and their names end with the first equals sign. -/
def FirstCode (link value : String) : Prop :=
  ∃ fragment before after, Fragment (Text.trim link) fragment ∧
    fragment = String.intercalate "&" (before ++ ("code=" ++ value) :: after) ∧
    (∀ p ∈ before, OtherParameter p) ∧ '&' ∉ value.toList ∧ ∀ p ∈ after, '&' ∉ p.toList

/-- The value without the equals signs at its end. -/
def Strips (value symbols : String) : Prop :=
  symbols.toList.getLast? ≠ some '=' ∧
    ∃ filling, value = symbols ++ String.ofList (List.replicate filling '=')

theorem fragment_iff {text fragment : String} :
    Fragment text fragment ↔ fragmentOf text.toList = fragment.toList := by
  constructor
  · intro h
    cases h with
    | marked fragment unmarked =>
        simpa using fragmentOf_of_marked unmarked fragment.toList
    | whole unmarked => exact fragmentOf_of_unmarked unmarked
  · intro h
    by_cases mark : '#' ∈ text.toList
    · obtain ⟨front, rest, spelled, unmarked⟩ := List.eq_append_cons_of_mem mark
      rw [spelled, fragmentOf_of_marked unmarked] at h
      have split : text = String.ofList front ++ "#" ++ fragment := by
        rw [← String.toList_inj, spelled, h]
        simp
      rw [split]
      exact .marked fragment (by simpa using unmarked)
    · rw [fragmentOf_of_unmarked mark, String.toList_inj] at h
      exact h ▸ .whole mark

/-- The parameters of a fragment are what it was joined from. -/
theorem pieces_intercalate {params : List String} (some_param : params ≠ [])
    (single : ∀ p ∈ params, '&' ∉ p.toList) :
    pieces (· == '&') (String.intercalate "&" params).toList = params.map String.toList := by
  rw [Text.pieces_eq_splitOn, String.toList_intercalate]
  apply List.splitOn_intercalate
  · simpa using single
  · simpa using some_param

theorem intercalate_pieces (fragment : List Char) :
    String.intercalate "&" ((pieces (· == '&') fragment).map String.ofList) =
      String.ofList fragment := by
  have back : ((pieces (· == '&') fragment).map String.ofList).map String.toList =
      pieces (· == '&') fragment := by simp [Function.comp_def]
  rw [← String.toList_inj, String.toList_intercalate, back, Text.pieces_eq_splitOn]
  exact (List.intercalate_splitOn '&').trans String.toList_ofList.symm

theorem toList_named (value : String) :
    ("code=" ++ value).toList = parameter ++ '=' :: value.toList := by
  simp [parameter]

theorem payload?_eq_some_iff {link value : String} :
    payload? link = some value.toList ↔ FirstCode link value := by
  rw [payload?, List.findSome?_eq_some_iff]
  constructor
  · rintro ⟨before, pair, after, parts, named, others⟩
    have single : ∀ p ∈ before ++ pair :: after, '&' ∉ p := by
      intro p mem sign
      exact absurd (Text.unmarked_of_mem_pieces (parts ▸ mem) '&' sign) (by decide)
    obtain ⟨single_before, single_pair, single_after⟩ :
        (∀ p ∈ before, '&' ∉ p) ∧ '&' ∉ pair ∧ ∀ p ∈ after, '&' ∉ p := by
      simpa only [List.forall_mem_append, List.forall_mem_cons] using single
    have joined := intercalate_pieces (fragmentOf (Text.trim link).toList)
    have spelled := valueOf?_eq_some.mp named
    have pair_eq : String.ofList pair = "code=" ++ value := by
      rw [← String.toList_inj, toList_named, String.toList_ofList, spelled]
    rw [parts, List.map_append, List.map_cons, pair_eq] at joined
    rw [spelled] at single_pair
    refine ⟨_, _, _, fragment_iff.mpr String.toList_ofList.symm, joined.symm, ?_, ?_, ?_⟩
    · rw [List.forall_mem_map]
      intro p mem
      rw [otherParameter_iff, String.toList_ofList]
      exact ⟨single_before p mem, others p mem⟩
    · exact fun sign => single_pair (by simp [sign])
    · rw [List.forall_mem_map]
      intro p mem
      rw [String.toList_ofList]
      exact single_after p mem
  · rintro ⟨fragment, before, after, place, joined, others, single, later⟩
    have single_pair : '&' ∉ ("code=" ++ value).toList := by
      simpa [toList_named, parameter] using single
    have all : ∀ p ∈ before ++ ("code=" ++ value) :: after, '&' ∉ p.toList := by
      rw [List.forall_mem_append, List.forall_mem_cons]
      exact ⟨fun p mem => (others p mem).single, single_pair, later⟩
    rw [fragment_iff.mp place, joined, pieces_intercalate (by simp) all, List.map_append,
      List.map_cons]
    refine ⟨_, _, _, rfl, valueOf?_eq_some.mpr (toList_named value), ?_⟩
    rw [List.forall_mem_map]
    exact fun p mem => (otherParameter_iff.mp (others p mem)).2

theorem strips_iff {value symbols : String} :
    Strips value symbols ↔ withoutFilling value.toList = symbols.toList := by
  constructor
  · rintro ⟨ends, filling, rfl⟩
    rw [String.toList_append, String.toList_ofList, withoutFilling_append ends]
  · intro stripped
    change value.toList.rdropWhile (· = '=') = symbols.toList at stripped
    have joined : value.toList.rdropWhile (· = '=') ++ value.toList.rtakeWhile (· = '=') =
        value.toList := List.rdropWhile_append_rtakeWhile
    have signs : ∀ c ∈ value.toList.rtakeWhile (· = '='), c = '=' :=
      fun c mem => of_decide_eq_true (List.mem_rtakeWhile_imp (p := fun c => decide (c = '=')) mem)
    rw [List.eq_replicate_of_mem signs, stripped] at joined
    constructor
    · intro ends
      have some_symbol : value.toList.rdropWhile (· = '=') ≠ [] := by
        rw [stripped]
        exact fun none_left => by simp [none_left] at ends
      have last := List.rdropWhile_last_not (· = '=') value.toList some_symbol
      rw [← stripped, List.getLast?_eq_some_getLast some_symbol] at ends
      exact last (decide_eq_true (Option.some.inj ends))
    · exact ⟨_, by rw [← String.toList_inj, ← joined, String.toList_append, String.toList_ofList]⟩

theorem exists_strips (value : String) : ∃ symbols, Strips value symbols :=
  ⟨String.ofList (withoutFilling value.toList), strips_iff.mpr String.toList_ofList.symm⟩

theorem Strips.unique {value symbols symbols' : String} (stripped : Strips value symbols)
    (stripped' : Strips value symbols') : symbols = symbols' :=
  String.toList_inj.mp ((strips_iff.mp stripped).symm.trans (strips_iff.mp stripped'))

variable {link value symbols : String}

theorem encode_eq_iff {code : String} :
    encode code = "code=" ++ symbols ↔ symbols.toList = payload code := by
  rw [← String.toList_inj, toList_named, encode, String.toList_ofList, List.append_cancel_left_eq,
    List.cons.injEq]
  exact ⟨fun h => h.2.symm, fun h => ⟨rfl, h.symm⟩⟩

/-- The bytes that a value stands for, and their text, decide how a link is read. -/
theorem decode_eq (first : FirstCode link value) (stripped : Strips value symbols) :
    decode link =
      match Text.decodeBase64 (encodeUtf8 symbols.toList) with
      | .error fault => .error (.payload fault)
      | .ok bytes =>
          match Text.decodeUtf8 bytes with
          | .error fault => .error (.bytes fault)
          | .ok code => .ok code := by
  rewrite [decode, payload?_eq_some_iff.mpr first, ← strips_iff.mp stripped]
  rfl

theorem decode_of_no_code (missing : ∀ value, ¬FirstCode link value) :
    decode link = .error .noCode := by
  cases found : payload? link with
  | none => rw [decode, found]
  | some value =>
      rw [← String.toList_ofList (l := value), payload?_eq_some_iff] at found
      exact absurd found (missing _)

/-- The three ways to read a value: its symbols stand for no bytes, for bytes that are no text, or
for the bytes of one snippet. -/
inductive Reading (link symbols : String) : Prop
  | malformed (fault : Text.Base64Fault) (no_bytes : ∀ bytes, symbols.toList ≠ encodeBase64 bytes)
      (refused : decode link = .error (.payload fault))
  | unspelled (fault : Text.Utf8Fault) (bytes : List UInt8)
      (stands : symbols.toList = encodeBase64 bytes)
      (no_text : ∀ code : String, bytes ≠ encodeUtf8 code.toList)
      (refused : decode link = .error (.bytes fault))
  | read (code : String) (stands : symbols.toList = payload code) (done : decode link = .ok code)

theorem reading (first : FirstCode link value) (stripped : Strips value symbols) :
    Reading link symbols := by
  have shape := decode_eq first stripped
  cases bits : Text.decodeBase64 (encodeUtf8 symbols.toList) with
  | error fault =>
      rw [bits] at shape
      refine .malformed fault (fun bytes stands => ?_) shape
      rw [stands, Text.decodeBase64_encodeBase64] at bits
      cases bits
  | ok bytes =>
      have stands : symbols.toList = encodeBase64 bytes :=
        (Text.encodeUtf8_injective (Text.encodeBase64_of_decodeBase64 bits)).symm
      rw [bits] at shape
      dsimp only at shape
      cases text : Text.decodeUtf8 bytes with
      | error fault =>
          rw [text] at shape
          refine .unspelled fault bytes stands (fun code spelled => ?_) shape
          rw [Text.decodeUtf8_eq_ok.mpr spelled] at text
          cases text
      | ok code =>
          rw [text] at shape
          refine .read code ?_ shape
          rw [stands, payload, ← Text.decodeUtf8_eq_ok.mp text]

theorem payload_injective : Function.Injective payload := by
  intro code code' same
  exact String.toList_inj.mp (Text.encodeUtf8_injective (Text.encodeBase64_injective same))

theorem decode_eq_ok (first : FirstCode link value) (stripped : Strips value symbols)
    (code : String) : decode link = .ok code ↔ symbols.toList = payload code := by
  obtain ⟨_, no_bytes, refused⟩ | ⟨_, bytes, stands, no_text, refused⟩ | ⟨code', stands, done⟩ :=
    reading first stripped
  · rw [refused]
    exact ⟨nofun, fun spelled => absurd spelled (no_bytes _)⟩
  · rw [refused, stands]
    exact ⟨nofun, fun spelled => absurd (Text.encodeBase64_injective spelled) (no_text code)⟩
  · rw [done, stands, Except.ok.injEq, payload_injective.eq_iff]

theorem decode_malformed (first : FirstCode link value) (stripped : Strips value symbols) :
    (∃ fault, decode link = .error (.payload fault)) ↔ ¬IsBase64 symbols.toList := by
  rw [Text.isBase64_iff]
  obtain ⟨fault, no_bytes, refused⟩ | ⟨_, bytes, stands, _, refused⟩ | ⟨code, stands, done⟩ :=
    reading first stripped
  · exact ⟨fun _ ⟨bytes, stands⟩ => no_bytes bytes stands, fun _ => ⟨fault, refused⟩⟩
  · rw [refused]
    exact ⟨nofun, fun no_bytes => absurd ⟨bytes, stands⟩ no_bytes⟩
  · rw [done]
    exact ⟨nofun, fun no_bytes => absurd ⟨_, stands⟩ no_bytes⟩

theorem decode_unspelled (first : FirstCode link value) (stripped : Strips value symbols) :
    (∃ fault, decode link = .error (.bytes fault)) ↔
      ∃ bytes, symbols.toList = encodeBase64 bytes ∧
        ∀ code : String, bytes ≠ encodeUtf8 code.toList := by
  obtain ⟨_, no_bytes, refused⟩ | ⟨fault, bytes, stands, no_text, refused⟩ | ⟨code, stands, done⟩ :=
    reading first stripped
  · rw [refused]
    exact ⟨nofun, fun ⟨bytes, stands, _⟩ => absurd stands (no_bytes bytes)⟩
  · exact ⟨fun _ => ⟨bytes, stands, no_text⟩, fun _ => ⟨fault, refused⟩⟩
  · rw [done]
    refine ⟨nofun, fun ⟨bytes, stands', no_text⟩ => ?_⟩
    exact absurd (Text.encodeBase64_injective (stands'.symm.trans stands)) (no_text code)

/-- A link without a parameter `code` is refused. The value of the first one, without the equals
signs at its end, is what the fragment of the snippet has behind its name if one is read, so two
links that are read alike have the same value up to equals signs. All else is refused: what is not
the text of bytes, by its symbols, its length or the spare bits of its last symbol, and the text of
bytes that are no snippet. -/
theorem decode_canonical (link : String) :
    ((∀ value, ¬FirstCode link value) → decode link = .error .noCode) ∧
      ∀ value, FirstCode link value → ∃ symbols, Strips value symbols ∧
        (∀ code, decode link = .ok code ↔ encode code = "code=" ++ symbols) ∧
        (∀ other value' code, FirstCode other value' → decode link = .ok code →
          decode other = .ok code → Strips value' symbols) ∧
        ((∃ fault, decode link = .error (.payload fault)) ↔ ¬IsBase64 symbols.toList) ∧
        ((∃ fault, decode link = .error (.bytes fault)) ↔
          ∃ bytes, symbols.toList = encodeBase64 bytes ∧
            ∀ code : String, bytes ≠ encodeUtf8 code.toList) := by
  refine ⟨decode_of_no_code, fun value first => ?_⟩
  obtain ⟨symbols, stripped⟩ := exists_strips value
  refine ⟨symbols, stripped, fun code => ?_, ?_, decode_malformed first stripped,
    decode_unspelled first stripped⟩
  · rw [decode_eq_ok first stripped, encode_eq_iff]
  · intro other value' code first' done done'
    obtain ⟨symbols', stripped'⟩ := exists_strips value'
    rw [decode_eq_ok first stripped] at done
    rw [decode_eq_ok first' stripped', ← done, String.toList_inj] at done'
    exact done' ▸ stripped'

instance {value symbols : String} : Decidable (Strips value symbols) :=
  decidable_of_iff _ strips_iff.symm

/-- A value with equals signs at its end, among other parameters, and three that are refused: for
the spare bits of its last symbol, for a byte that starts no character, and for its name. -/
theorem decode_filled_and_refused :
    decode "https://example.com/?code=Yg#a=1&code=YQ==&code=Yg" = .ok "a" ∧
      encode "a" = "code=" ++ "YQ" ∧
      (∃ fault, decode "code=YR" = .error (.payload fault)) ∧
      (∃ fault, decode "code=_w" = .error (.bytes fault)) ∧
      decode "codes=YQ" = .error .noCode := by
  have spelled : encode "a" = "code=" ++ "YQ" := by decide
  have read : payload? "https://example.com/?code=Yg#a=1&code=YQ==&code=Yg" =
      some "YQ==".toList := by decide
  have loose : payload? "code=YR" = some "YR".toList := by decide
  have byte : payload? "code=_w" = some "_w".toList := by decide
  have missing : payload? "codes=YQ" = none := by decide
  refine ⟨?_, spelled, ?_, ?_, ?_⟩
  · obtain ⟨symbols, stripped, found, _⟩ :=
      (decode_canonical _).2 "YQ==" (payload?_eq_some_iff.mp read)
    obtain rfl := stripped.unique (by decide : Strips "YQ==" "YQ")
    exact (found "a").mpr spelled
  · obtain ⟨symbols, stripped, _, _, malformed, _⟩ :=
      (decode_canonical _).2 "YR" (payload?_eq_some_iff.mp loose)
    obtain rfl := stripped.unique (by decide : Strips "YR" "YR")
    refine malformed.mpr fun form => ?_
    exact absurd ((form.spare 17 (by decide) (by decide)).1 rfl) (by decide)
  · obtain ⟨symbols, stripped, _, _, _, unspelled⟩ :=
      (decode_canonical _).2 "_w" (payload?_eq_some_iff.mp byte)
    obtain rfl := stripped.unique (by decide : Strips "_w" "_w")
    have no_text : ∀ code, Text.decodeUtf8 [255] ≠ .ok code := nofun
    refine unspelled.mpr ⟨[255], by decide, fun code text => ?_⟩
    exact no_text code (Text.decodeUtf8_eq_ok.mpr text)
  · refine (decode_canonical _).1 fun value first => ?_
    exact nomatch missing.symm.trans (payload?_eq_some_iff.mpr first)

end ShareLink
end FeatureScan
