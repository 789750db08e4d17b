import FeatureScan.Proofs.BuiltinTables
import FeatureScan.Proofs.DatasetInfluence
import FeatureScan.Proofs.LineGuard
import FeatureScan.Proofs.Pattern.Parts

/-!
Features that are a special case of another one. Each rule of the special feature has a stretch
that is a plain rule of the general one, so a text that shows the first shows the second. A
guard can only keep the special feature back.
-/

namespace FeatureScan

open Pattern (Reader Regex)

namespace Rule

/-- What the rule looks for. -/
def pattern : Rule → Regex
  | .anywhere p => p
  | .guarded p _ => p

theorem exists_matches {rule : Rule} {text : Array Char}
    (shows : rule.isMatch (.ofArray text) = true) :
    ∃ i j, i ≤ text.size ∧ Regex.Matches text rule.pattern i j := by
  cases rule with
  | anywhere p => exact (Regex.isMatch_iff text p).mp shows
  | guarded p rejected =>
      obtain ⟨m, found, _⟩ := (LineGuard.isMatch_guarded_iff p rejected _).mp shows
      obtain ⟨bound, here⟩ := Regex.mem_findAll found
      exact ⟨m.1, m.2, bound, Regex.matches_of_matchAt here⟩

/-- Whether the general rule is plain and its pattern is a stretch of the special one. -/
def entails (special : Rule) : Rule → Bool
  | .anywhere p => decide (p.parts <:+: special.pattern.parts)
  | .guarded _ _ => false

theorem isMatch_of_entails {special general : Rule} (entails : special.entails general = true)
    {text : Array Char} (shows : special.isMatch (.ofArray text) = true) :
    general.isMatch (.ofArray text) = true := by
  cases general with
  | anywhere p =>
      obtain ⟨i, j, bound, here⟩ := exists_matches shows
      obtain ⟨k, l, _, high, there⟩ :=
        Regex.exists_matches_of_infix (of_decide_eq_true entails) here
      refine (Regex.isMatch_iff text p).mpr ⟨k, l, ?_, there⟩
      exact Nat.le_trans there.le (Nat.le_trans high (here.le_size bound))
  | guarded p rejected => cases entails

end Rule

namespace Signature

/-- Whether each rule of the special signature entails one of the general signature. -/
def entails (special general : Signature) : Bool :=
  special.rules.all fun rule => general.rules.any rule.entails

theorem shownBy_of_entails {special general : Signature}
    (entails : special.entails general = true) {text : String}
    (shown : special.shownBy text = true) : general.shownBy text = true := by
  obtain ⟨rule, mem, shows⟩ := List.any_eq_true.mp shown
  obtain ⟨other, mem', entailed⟩ := List.any_eq_true.mp (List.all_eq_true.mp entails rule mem)
  exact List.any_eq_true.mpr ⟨other, mem', Rule.isMatch_of_entails entailed shows⟩

end Signature

namespace RuleText

/-- The pattern, and whether the rule is plain. The kernel compares lists of characters faster than
texts. -/
def spelled : RuleText → List Char × Bool
  | .anywhere p => (p.toList, true)
  | .unlessLineHolds p _ => (p.toList, false)

/-- Whether the general rule is plain and its pattern is a stretch of the special one. -/
def entails (special general : List Char × Bool) : Bool :=
  general.2 && (Regex.readChars? special.1).any fun p =>
    (Regex.readChars? general.1).any fun q => decide (q.parts <:+: p.parts)

theorem pattern_of_compile? {text : RuleText} {rule : Rule}
    (read : text.compile? .standard = some rule) :
    Regex.readChars? text.spelled.1 = some rule.pattern := by
  cases text with
  | anywhere p =>
      obtain ⟨r, found, rfl⟩ := Option.map_eq_some_iff.mp read
      exact (Reader.standard_read? p).symm.trans found
  | unlessLineHolds p word =>
      obtain ⟨r, found, literal⟩ := Option.bind_eq_some_iff.mp read
      obtain ⟨rejected, _, same⟩ := Option.bind_eq_some_iff.mp literal
      cases same
      exact (Reader.standard_read? p).symm.trans found

theorem compile?_of_entails {special general : RuleText} {rule : Rule}
    (entailed : entails special.spelled general.spelled = true)
    (read : special.compile? .standard = some rule) :
    ∃ other, general.compile? .standard = some other ∧ rule.entails other = true := by
  simp only [entails, pattern_of_compile? read, Option.any_some, Bool.and_eq_true] at entailed
  obtain ⟨plain, found⟩ := entailed
  obtain ⟨q, readable, stretch⟩ := (Option.any_eq_true _ _).mp found
  cases general with
  | anywhere p =>
      have found : Reader.standard.read? p = some q := (Reader.standard_read? p).trans readable
      exact ⟨.anywhere q, congrArg (Option.map _) found, stretch⟩
  | unlessLineHolds p word => cases plain

end RuleText

/-- An identifier with its rules. -/
abbrev SpelledEntry := List Char × List (List Char × Bool)

namespace Entry

def spelled (e : Entry) : SpelledEntry := (e.1.toList, e.2.map RuleText.spelled)

/-- Whether the general identifier has entries and each rule of the special one entails one of
each of them. -/
def entails (entries : List SpelledEntry) (special general : List Char) : Bool :=
  let others := entries.filter fun e => e.1 == general
  !others.isEmpty && (entries.filter fun e => e.1 == special).all fun e =>
    others.all fun other => e.2.all fun text => other.2.any (RuleText.entails text)

end Entry

namespace Catalog

theorem mem_detectedIds {c : Catalog} {text : String} {d : Dataset} {id : String} :
    id ∈ c.detectedIds text d ↔ text ≠ "" ∧ ∃ s, c.get? id = some s ∧ s.shownBy text = true := by
  change id ∈ (c.detect text d).map Feature.id ↔ _
  simp only [List.mem_map, mem_detect, get?_eq_some_iff]
  constructor
  · rintro ⟨_, ⟨nonempty, s, mem, shown, rfl⟩, named⟩
    exact ⟨nonempty, s, ⟨mem, named⟩, shown⟩
  · rintro ⟨nonempty, s, ⟨mem, named⟩, shown⟩
    exact ⟨d.entry s.id, ⟨nonempty, s, mem, shown, rfl⟩, named⟩

/-- Special features of the built-in catalog, each with its general feature. Two of them have
the same rules and stand for each other. -/
def generalFeatures : List (String × String) := [
  ("css-grid", "grid"), ("css-flexbox", "flexbox"), ("subgrid", "css-subgrid"),
  ("css-subgrid", "subgrid"), ("summary", "details"), ("source", "picture"),
  ("server-sent-events", "eventsource"), ("top-level-await", "async-await"),
  ("private-methods", "private-fields"), ("rest-parameters", "spread-operator"),
  ("iterators", "symbols"), ("promise-allsettled", "promise"), ("promise-any", "promise"),
  ("readable-stream", "streams"), ("writable-stream", "streams"), ("transform-stream", "streams"),
  ("import-assertions", "es-modules"), ("import-attributes", "es-modules"),
  ("json-modules", "es-modules")]

/-- Besides those of the list, every feature of the family `intl` has it for its general one. -/
def Specialises (special general : String) : Prop :=
  (special, general) ∈ generalFeatures ∨ Text.startsWith "intl-" special = true ∧ general = "intl"

/-- The entries of the built-in tables. -/
def spelledEntries : List SpelledEntry :=
  Signatures.tables.flatMap fun t => t.entries.map Entry.spelled

set_option maxRecDepth 20000 in
theorem entails_of_listed : ∀ p ∈ generalFeatures,
    Entry.entails spelledEntries p.1.toList p.2.toList = true := by
  simp only [spelledEntries, Signatures.tables, Signatures.css, Signatures.html, Signatures.script,
    Signatures.form, feature, Entry.spelled, RuleText.spelled, generalFeatures,
    List.forall_mem_cons, List.flatMap_cons, List.flatMap_nil, List.map_cons, List.map_nil,
    List.cons_append, List.nil_append, Text.toList_literal]
  decide +kernel

set_option maxRecDepth 20000 in
theorem entails_intl : ∀ e ∈ spelledEntries, "intl-".toList.isPrefixOf e.1 = true →
    Entry.entails spelledEntries e.1 "intl".toList = true := by
  simp only [spelledEntries, Signatures.tables, Signatures.css, Signatures.html, Signatures.script,
    Signatures.form, feature, Entry.spelled, RuleText.spelled,
    List.flatMap_cons, List.flatMap_nil, List.map_cons, List.map_nil,
    List.cons_append, List.nil_append, Text.toList_literal]
  decide +kernel

theorem exists_spelled {s : Signature} (mem : s ∈ builtin.signatures) :
    ∃ texts, Entry.spelled (s.id, texts) ∈ spelledEntries ∧
      texts.mapM (RuleText.compile? .standard) = some s.rules := by
  obtain ⟨t, ht, texts, he, compiled⟩ := exists_entry ofTables_builtin mem
  exact ⟨texts, List.mem_flatMap.mpr ⟨t, ht, List.mem_map_of_mem he⟩, compiled⟩

theorem entails_of_entries {special general : Signature} (mem : special ∈ builtin.signatures)
    (mem' : general ∈ builtin.signatures)
    (entailed : Entry.entails spelledEntries special.id.toList general.id.toList = true) :
    special.entails general = true := by
  obtain ⟨texts, listed, compiled⟩ := exists_spelled mem
  obtain ⟨texts', listed', compiled'⟩ := exists_spelled mem'
  simp only [Entry.entails, Bool.and_eq_true, List.all_eq_true, List.mem_filter, beq_iff_eq,
    List.any_eq_true] at entailed
  have each := entailed.2 _ ⟨listed, rfl⟩ _ ⟨listed', rfl⟩
  refine List.all_eq_true.mpr fun rule hr => ?_
  obtain ⟨text, ht, read⟩ := exists_of_mem_mapM compiled hr
  obtain ⟨_, general, entails⟩ := each text.spelled (List.mem_map_of_mem ht)
  obtain ⟨text', ht', rfl⟩ := List.mem_map.mp general
  obtain ⟨other, read', entailed⟩ := RuleText.compile?_of_entails entails read
  exact List.any_eq_true.mpr ⟨other, mem_of_mapM compiled' ht' read', entailed⟩

theorem exists_general {special : List Char} {general : String}
    (entailed : Entry.entails spelledEntries special general.toList = true) :
    ∃ s ∈ builtin.signatures, s.id = general := by
  simp only [Entry.entails, Bool.and_eq_true, Bool.not_eq_true', List.isEmpty_eq_false_iff] at entailed
  obtain ⟨e, mem⟩ := List.exists_mem_of_ne_nil _ entailed.1
  obtain ⟨listed, named⟩ := List.mem_filter.mp mem
  obtain ⟨t, ht, spelled⟩ := List.mem_flatMap.mp listed
  obtain ⟨entry, he, rfl⟩ := List.mem_map.mp spelled
  have known : general ∈ builtin.ids := by
    rw [ids_builtin, List.mem_eraseDups]
    refine List.mem_flatMap.mpr ⟨t, ht, List.mem_map.mpr ⟨entry, he, ?_⟩⟩
    exact String.toList_injective (beq_iff_eq.mp named)
  exact List.mem_map.mp known

theorem entails_of_specialises {general : String} {s : Signature} (h : Specialises s.id general)
    (mem : s ∈ builtin.signatures) :
    Entry.entails spelledEntries s.id.toList general.toList = true := by
  cases h with
  | inl listed => exact entails_of_listed (s.id, general) listed
  | inr member =>
      obtain ⟨texts, listed, _⟩ := exists_spelled mem
      have starts : "intl-".toList.isPrefixOf s.id.toList = true := member.1
      have entailed := entails_intl _ listed starts
      rw [member.2]
      exact entailed

/-- The built-in catalog finds a special feature in a text only together with the general one. -/
theorem general_detected_of_special {special general : String} (h : Specialises special general)
    {text : String} {d : Dataset} (detected : special ∈ builtin.detectedIds text d) :
    general ∈ builtin.detectedIds text d := by
  obtain ⟨nonempty, s, known, shown⟩ := mem_detectedIds.mp detected
  obtain ⟨mem, rfl⟩ := get?_eq_some_iff.mp known
  have entailed := entails_of_specialises h mem
  obtain ⟨g, mem', rfl⟩ := exists_general entailed
  have shown := Signature.shownBy_of_entails (entails_of_entries mem mem' entailed) shown
  exact mem_detectedIds.mpr ⟨nonempty, g, get?_eq_some_iff.mpr ⟨mem', rfl⟩, shown⟩

/-- The call of a private method shows a private field as well. -/
theorem private_fields_detected :
    "private-methods" ∈ builtin.detectedIds "#send ()" .empty ∧
      "private-fields" ∈ builtin.detectedIds "#send ()" .empty := by
  have shown : (builtin.get? "private-methods").any (·.shownBy "#send ()") = true := by
    simp only [get?_builtin]
    decide +kernel
  have detected : "private-methods" ∈ builtin.detectedIds "#send ()" .empty :=
    mem_detectedIds.mpr ⟨by decide, (Option.any_eq_true _ _).mp shown⟩
  exact ⟨detected, general_detected_of_special (.inl (by decide)) detected⟩

end Catalog
end FeatureScan
