import FeatureScan.ShareLink
import FeatureScan.Proofs.Text.Base64
import FeatureScan.Proofs.Text.Pieces
import Mathlib.Data.List.TakeDrop

/-!
A link gives back the snippet that it carries, wherever the parameter with the snippet stands in
the fragment. Nothing in the payload can be taken for a mark, so the first parameter of the name is
found whole; which characters follow it does not matter.
-/

namespace FeatureScan
namespace ShareLink

open Text (IsSymbol isBlank allBlank pieces dropLastBlanks)

/-- One parameter, and not the one that carries the snippet: what stands before its first equals
sign, if it has one, is another name. -/
structure OtherParameter (p : String) : Prop where
  single : '&' ∉ p.toList
  named : ∀ name value, p = name ++ "=" ++ value → '=' ∉ name.toList → name ≠ "code"

/-- The parameter that carries the snippet, with equals signs at its end. -/
def carrier (code : String) (filling : Nat) : String :=
  encode code ++ String.ofList (List.replicate filling '=')

theorem isSymbol_of_mem_payload {code : String} : ∀ c ∈ payload code, IsSymbol c :=
  Text.isSymbol_of_mem_encodeBase64

theorem toList_carrier (code : String) (filling : Nat) :
    (carrier code filling).toList =
      parameter ++ '=' :: (payload code ++ List.replicate filling '=') := by
  simp [carrier, encode]

/-- Nothing in the carrier is taken for a mark, or for a blank around a link. -/
theorem carrier_plain (code : String) (filling : Nat) :
    ∀ c ∈ (carrier code filling).toList, isBlank c = false ∧ c ≠ '#' ∧ c ≠ '&' := by
  intro c hc
  rw [toList_carrier] at hc
  simp only [List.mem_append, List.mem_cons] at hc
  obtain name | rfl | value | sign := hc
  · simp only [parameter, List.mem_cons, List.not_mem_nil, or_false] at name
    obtain rfl | rfl | rfl | rfl := name <;> decide
  · decide
  · have symbol := isSymbol_of_mem_payload c value
    exact ⟨symbol.not_blank, symbol.not_mark.1, symbol.not_mark.2.1⟩
  · rw [List.eq_of_mem_replicate sign]
    decide

theorem valueOf?_eq_some {pair value : List Char} :
    valueOf? pair = some value ↔ pair = parameter ++ '=' :: value := by
  rw [valueOf?, List.span_eq_takeWhile_dropWhile]
  constructor
  · intro h
    have whole := List.takeWhile_append_dropWhile (p := fun c => decide (c ≠ '=')) (l := pair)
    have first := List.head?_dropWhile_not (fun c => decide (c ≠ '=')) pair
    split at h
    next name mark rest split =>
      simp only [Prod.mk.injEq] at split
      rw [split.1, split.2] at whole
      rw [split.2] at first
      have mark_eq : mark = '=' := by simpa using first
      split at h
      next named => rw [← whole, named, mark_eq, Option.some.inj h]
      next => cases h
    next => cases h
  · rintro rfl
    have name : ∀ c ∈ parameter, decide (c ≠ '=') = true := by simp [parameter]
    rw [List.takeWhile_append_of_pos name, List.dropWhile_append_of_pos name]
    rfl

theorem otherParameter_iff {p : String} :
    OtherParameter p ↔ '&' ∉ p.toList ∧ valueOf? p.toList = none := by
  constructor
  · intro other
    refine ⟨other.single, Option.eq_none_iff_forall_ne_some.mpr fun value found => ?_⟩
    have spelled : p = "code" ++ "=" ++ String.ofList value := by
      rw [← String.toList_inj, valueOf?_eq_some.mp found]
      simp [parameter]
    exact other.named "code" (String.ofList value) spelled (by decide) rfl
  · intro ⟨single, nothing⟩
    refine ⟨single, fun name value spelled _ named => ?_⟩
    have found : valueOf? p.toList = some value.toList := by
      rw [valueOf?_eq_some, spelled, named]
      simp [parameter]
    exact nomatch nothing.symm.trans found

instance : DecidablePred OtherParameter := fun _ => decidable_of_iff _ otherParameter_iff.symm

/-- Nothing follows, or the next parameter does. -/
def EndsParameter (rest : List Char) : Prop := rest = [] ∨ ∃ more, rest = '&' :: more

theorem findSome?_carrier (code : String) (filling : Nat) {rest : List Char}
    (ends : EndsParameter rest) :
    (pieces (· == '&') ((carrier code filling).toList ++ rest)).findSome? valueOf? =
      some (payload code ++ List.replicate filling '=') := by
  have found := valueOf?_eq_some.mpr (toList_carrier code filling)
  have unmarked : ∀ c ∈ (carrier code filling).toList, (c == '&') = false :=
    fun c hc => beq_eq_false_iff_ne.mpr (carrier_plain code filling c hc).2.2
  obtain rfl | ⟨more, rfl⟩ := ends
  · rw [List.append_nil, Text.pieces_of_unmarked unmarked, List.findSome?_cons, found]
  · rw [Text.pieces_append_mark unmarked rfl, List.findSome?_cons, found]

theorem findSome?_other {p : String} (other : OtherParameter p) (rest : List Char) :
    (pieces (· == '&') (p.toList ++ '&' :: rest)).findSome? valueOf? =
      (pieces (· == '&') rest).findSome? valueOf? := by
  have unmarked : ∀ c ∈ p.toList, (c == '&') = false := by
    intro c hc
    exact beq_eq_false_iff_ne.mpr fun same => other.single (same ▸ hc)
  rw [Text.pieces_append_mark unmarked rfl, List.findSome?_cons, (otherParameter_iff.mp other).2]

/-- The parameters before the one with the snippet. -/
def leading (ps : List String) : List Char := ps.flatMap fun p => p.toList ++ ['&']

theorem findSome?_leading {ps : List String} (others : ∀ p ∈ ps, OtherParameter p)
    (rest : List Char) :
    (pieces (· == '&') (leading ps ++ rest)).findSome? valueOf? =
      (pieces (· == '&') rest).findSome? valueOf? := by
  induction ps with
  | nil => rfl
  | cons p ps ih =>
      obtain ⟨first, later⟩ := List.forall_mem_cons.mp others
      rw [leading, List.flatMap_cons, ← leading, List.append_assoc, List.append_assoc,
        List.singleton_append, findSome?_other first, ih later]

theorem toList_intercalate (ps qs : List String) (p : String) :
    ∃ rest, EndsParameter rest ∧
      (String.intercalate "&" (ps ++ p :: qs)).toList = leading ps ++ (p.toList ++ rest) := by
  induction ps with
  | nil =>
      cases qs with
      | nil => exact ⟨[], .inl rfl, by simp [leading]⟩
      | cons q qs =>
          refine ⟨'&' :: (String.intercalate "&" (q :: qs)).toList, .inr ⟨_, rfl⟩, ?_⟩
          rw [List.nil_append, String.intercalate_cons_of_ne_nil (by simp)]
          simp [leading]
  | cons first ps ih =>
      obtain ⟨rest, ends, joined⟩ := ih
      refine ⟨rest, ends, ?_⟩
      rw [List.cons_append, String.intercalate_cons_of_ne_nil (by simp), String.toList_append,
        joined]
      simp [leading]

theorem fragmentOf_of_marked {front : List Char} (unmarked : '#' ∉ front) (fragment : List Char) :
    fragmentOf (front ++ '#' :: fragment) = fragment := by
  have plain : ∀ c ∈ front, decide (c ≠ '#') = true := by
    intro c hc
    exact decide_eq_true fun same => unmarked (same ▸ hc)
  rw [fragmentOf, List.span_eq_takeWhile_dropWhile, List.takeWhile_append_of_pos plain,
    List.dropWhile_append_of_pos plain]
  rfl

theorem fragmentOf_of_unmarked {link : List Char} (unmarked : '#' ∉ link) :
    fragmentOf link = link := by
  have plain : ∀ c ∈ link, decide (c ≠ '#') = true := by
    intro c hc
    exact decide_eq_true fun same => unmarked (same ▸ hc)
  have whole : (link ++ []).takeWhile (· ≠ '#') = link ++ [] :=
    List.takeWhile_append_of_pos plain
  have nothing : (link ++ []).dropWhile (· ≠ '#') = [] := List.dropWhile_append_of_pos plain
  rw [List.append_nil] at whole nothing
  rw [fragmentOf, List.span_eq_takeWhile_dropWhile, whole, nothing]

theorem carrier_ne_nil (code : String) (filling : Nat) : (carrier code filling).toList ≠ [] := by
  rw [toList_carrier]
  simp [parameter]

/-- Trimming takes nothing of the carrier. -/
theorem dropLastBlanks_carrier (front : List Char) (code : String) (filling : Nat)
    (rest : List Char) :
    dropLastBlanks (front ++ ((carrier code filling).toList ++ rest)) =
      front ++ ((carrier code filling).toList ++ dropLastBlanks rest) :=
  Text.dropLastBlanks_append_solid (carrier_ne_nil code filling)
    (fun c hc => (carrier_plain code filling c hc).1) front rest

theorem EndsParameter.trimmed {rest after : List Char} (ends : EndsParameter rest)
    (blank : ∀ c ∈ after, isBlank c = true) : EndsParameter (dropLastBlanks (rest ++ after)) := by
  obtain rfl | ⟨more, rfl⟩ := ends
  · exact .inl (Text.dropLastBlanks_of_blank blank)
  · exact .inr ⟨_, Text.dropLastBlanks_append (by decide) [] (more ++ after)⟩

/-- What follows the first number sign is all of a link that is read, but for the blanks at its
end. -/
theorem fragmentOf_trim {front : String} (unmarked : '#' ∉ front.toList) (fragment : String) :
    fragmentOf (Text.trim (front ++ "#" ++ fragment)).toList = dropLastBlanks fragment.toList := by
  have mark : isBlank '#' = false := by decide
  have left : '#' ∉ front.toList.dropWhile isBlank :=
    fun mem => unmarked ((List.dropWhile_sublist _).mem mem)
  have link : (front ++ "#" ++ fragment).toList = front.toList ++ '#' :: fragment.toList := by simp
  rw [Text.toList_trim, link, Text.dropWhile_isBlank_append mark, Text.dropLastBlanks_append mark,
    fragmentOf_of_marked left]

theorem trim_carrier {before after : String} (blank_before : allBlank before = true)
    (blank_after : allBlank after = true) (code : String) (filling : Nat) :
    (Text.trim (before ++ carrier code filling ++ after)).toList =
      (carrier code filling).toList := by
  have solid := fun c hc => (carrier_plain code filling c hc).1
  obtain ⟨first, rest, spelled⟩ := List.exists_cons_of_ne_nil (carrier_ne_nil code filling)
  have starts : ((carrier code filling).toList ++ after.toList).dropWhile isBlank =
      (carrier code filling).toList ++ after.toList := by
    rw [spelled, List.cons_append, List.dropWhile_cons_of_neg]
    simpa using solid first (spelled ▸ List.mem_cons_self)
  have ends := dropLastBlanks_carrier [] code filling after.toList
  rw [Text.dropLastBlanks_of_blank (Text.isBlank_of_allBlank blank_after)] at ends
  rw [Text.toList_trim, String.toList_append, String.toList_append, List.append_assoc,
    List.dropWhile_append_of_pos (Text.isBlank_of_allBlank blank_before), starts]
  simpa using ends

theorem withoutFilling_append {symbols : List Char} (ends : symbols.getLast? ≠ some '=')
    (filling : Nat) : withoutFilling (symbols ++ List.replicate filling '=') = symbols := by
  have signs : ∀ c ∈ List.replicate filling '=', decide (c = '=') = true :=
    fun c hc => decide_eq_true (List.eq_of_mem_replicate hc)
  have kept : symbols.reverse.dropWhile (· = '=') = symbols.reverse := by
    rw [← List.head?_reverse] at ends
    cases spelled : symbols.reverse with
    | nil => rfl
    | cons last front =>
        rw [List.dropWhile_cons_of_neg]
        simpa [spelled] using ends
  rw [withoutFilling, List.reverse_append, List.reverse_replicate,
    List.dropWhile_append_of_pos signs, kept, List.reverse_reverse]

theorem withoutFilling_payload (code : String) (filling : Nat) :
    withoutFilling (payload code ++ List.replicate filling '=') = payload code := by
  refine withoutFilling_append (fun ends => ?_) filling
  exact (isSymbol_of_mem_payload '=' (List.mem_of_getLast? ends)).not_mark.2.2 rfl

theorem decode_of_payload? {link code : String} {filling : Nat}
    (found : payload? link = some (payload code ++ List.replicate filling '=')) :
    decode link = .ok code := by
  rw [decode, found]
  dsimp only
  rw [withoutFilling_payload, payload, Text.decodeBase64_encodeBase64]
  dsimp only
  rw [Text.decodeUtf8_encodeUtf8]

theorem payload?_carrier {before after : String} (blank_before : allBlank before = true)
    (blank_after : allBlank after = true) (code : String) (filling : Nat) :
    payload? (before ++ carrier code filling ++ after) =
      some (payload code ++ List.replicate filling '=') := by
  have unmarked : '#' ∉ (carrier code filling).toList :=
    fun mem => (carrier_plain code filling '#' mem).2.1 rfl
  have found := findSome?_carrier code filling (.inl rfl)
  rw [List.append_nil] at found
  rw [payload?, trim_carrier blank_before blank_after, fragmentOf_of_unmarked unmarked]
  exact found

theorem payload?_fragment {front after : String} (unmarked : '#' ∉ front.toList)
    (blank_after : allBlank after = true) (code : String) (filling : Nat) {ps : List String}
    (others : ∀ p ∈ ps, OtherParameter p) (qs : List String) :
    payload? (front ++ "#" ++
        (String.intercalate "&" (ps ++ carrier code filling :: qs) ++ after)) =
      some (payload code ++ List.replicate filling '=') := by
  obtain ⟨rest, ends, joined⟩ := toList_intercalate ps qs (carrier code filling)
  have ends' := ends.trimmed (Text.isBlank_of_allBlank blank_after)
  rw [payload?, fragmentOf_trim unmarked, String.toList_append, joined]
  simp only [List.append_assoc]
  rw [dropLastBlanks_carrier, findSome?_leading others, findSome?_carrier code filling ends']

/-- A snippet is read back from its fragment alone, behind a number sign, and from the fragment of
an address among other parameters, of which those before it have other names. Equals signs at the
end of the payload and blanks around the link make no difference. -/
theorem decode_carrier (code : String) (filling : Nat) {before after : String}
    (blank_before : allBlank before = true) (blank_after : allBlank after = true) :
    decode (before ++ carrier code filling ++ after) = .ok code ∧
      decode (before ++ "#" ++ carrier code filling ++ after) = .ok code ∧
      ∀ (url : String) (ps qs : List String), '#' ∉ url.toList → (∀ p ∈ ps, OtherParameter p) →
        decode (before ++ url ++ "#" ++
          String.intercalate "&" (ps ++ carrier code filling :: qs) ++ after) = .ok code := by
  have unmarked : '#' ∉ before.toList :=
    fun mem => absurd (Text.isBlank_of_allBlank blank_before '#' mem) (by decide)
  refine ⟨decode_of_payload? (payload?_carrier blank_before blank_after code filling), ?_, ?_⟩
  · have none_before : ∀ p ∈ ([] : List String), OtherParameter p := nofun
    have found := payload?_fragment unmarked blank_after code filling none_before []
    rw [List.nil_append, String.intercalate_singleton, ← String.append_assoc] at found
    exact decode_of_payload? found
  · intro url ps qs plain others
    have front : '#' ∉ (before ++ url).toList := by
      rw [String.toList_append, List.mem_append]
      exact not_or.mpr ⟨unmarked, plain⟩
    have found := payload?_fragment front blank_after code filling others qs
    rw [← String.append_assoc] at found
    exact decode_of_payload? found

/-- A character of four bytes behind parameters that look like the one with the snippet: a longer
name, a name without a value, and a value that is the name. Another snippet comes after it. -/
theorem decode_among_lookalikes :
    let link := "\u2003https://example.com/?code=YQ#codes=YQ&code&a=code=YQ&" ++
      "code=8J-YgA==&code=YQ\n"
    decode link = .ok "😀" ∧ decode " code=8J-YgA \t" = .ok "😀" := by
  intro link
  have written : carrier "😀" 2 = "code=8J-YgA==" ∧ carrier "😀" 0 = "code=8J-YgA" := by decide
  have others : ∀ p ∈ ["codes=YQ", "code", "a=code=YQ"], OtherParameter p := by decide
  obtain ⟨_, _, among⟩ := @decode_carrier "😀" 2 "\u2003" "\n" (by decide) (by decide)
  obtain ⟨alone, _⟩ := @decode_carrier "😀" 0 " " " \t" (by decide) (by decide)
  have found := among "https://example.com/?code=YQ" _ ["code=YQ"] (by decide) others
  rw [written.1] at found
  rw [written.2] at alone
  exact ⟨found, alone⟩

end ShareLink
end FeatureScan
