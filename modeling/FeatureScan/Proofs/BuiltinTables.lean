import FeatureScan.Signatures
import FeatureScan.Proofs.CatalogReading
import FeatureScan.Proofs.Pattern.Blanks
import FeatureScan.Proofs.Pattern.Case
import FeatureScan.Proofs.Pattern.Lines
import FeatureScan.Proofs.Pattern.Returns
import FeatureScan.Proofs.Text.Pieces
import Mathlib.Data.List.Perm.Subperm

/-!
The built-in tables are free of faults, so the built-in catalog is what they register. All
that is to be known of the built-in patterns one by one is tried here, in a single reading
of each pattern.
-/

namespace FeatureScan

/-- The pattern takes a line feed for the end of the text, does not tell the two cases of a
letter apart and takes a character that is not blank. -/
def Pattern.Regex.vetted (r : Pattern.Regex) : Bool := r.joinable && r.caseBlind && r.takesSolid

theorem Pattern.Regex.vetted_iff {r : Pattern.Regex} :
    r.vetted = true ↔ r.joinable = true ∧ r.caseBlind = true ∧ r.takesSolid = true := by
  simp only [vetted, Bool.and_eq_true, and_assoc]

namespace Signatures

open Pattern

/-- The patterns of an entry as characters, each with the identifier. -/
def patterns (e : Entry) : List (List Char × List Char) :=
  e.2.map fun text => (e.1.toList, text.pattern.toList)

set_option maxRecDepth 20000 in
/-- The patterns are put before the kernel as lists of characters, which it reads faster. The
pattern of one entry tells a line feed from a carriage return with a line feed. -/
theorem tables_vetted : ∀ p ∈ tables.flatMap fun t => t.entries.flatMap patterns,
    (Regex.readChars? p.2).any (fun r =>
      r.vetted && (r.blindToReturns || p.1 == "for-of".toList)) = true := by
  simp only [patterns, tables, css, html, script, form, feature, RuleText.pattern,
    List.flatMap_cons, List.flatMap_nil, List.map_cons, List.map_nil,
    List.cons_append, List.nil_append, Text.toList_literal]
  decide +kernel

theorem tables_named : ∀ t ∈ tables, ∀ e ∈ t.entries, e.1 ≠ "" ∧ e.2 ≠ [] := by
  decide +kernel

set_option maxRecDepth 20000 in
theorem tables_distinct : ∀ t ∈ tables, (t.entries.map Prod.fst).Nodup := by
  have spelled : ∀ t ∈ tables, (t.entries.map fun e => e.1.toList).Nodup := by
    simp only [tables, css, html, script, form, feature, List.forall_mem_cons, List.map_cons,
      List.map_nil, Text.toList_literal]
    decide +kernel
  intro t ht
  refine .of_map String.toList ?_
  rw [List.map_map]
  exact spelled t ht

/-- The one guarded rule. -/
def guardedText : RuleText := .unlessLineHolds "await\\s+" "function"

/-- Whether the rule is plain or the guarded one. -/
def isKnown : RuleText → Bool
  | .anywhere _ => true
  | text => text = guardedText

theorem texts_known : ∀ t ∈ tables, ∀ e ∈ t.entries, ∀ text ∈ e.2, isKnown text = true := by
  decide +kernel

theorem texts_plain {t : Table} (ht : t ∈ tables) {e : Entry} (he : e ∈ t.entries)
    {text : RuleText} (mem : text ∈ e.2) :
    text = .anywhere text.pattern ∨ text = guardedText := by
  have known := texts_known t ht e he text mem
  cases text with
  | anywhere p => exact .inl rfl
  | unlessLineHolds p word => exact .inr (of_decide_eq_true known)

/-- The guarded rule stands in one entry. -/
theorem guarded_named : ∀ t ∈ tables, ∀ e ∈ t.entries, guardedText ∈ e.2 →
    e.1 = "top-level-await" := by
  decide +kernel

theorem exists_read {t : Table} (ht : t ∈ tables) {e : Entry} (he : e ∈ t.entries)
    {text : RuleText} (mem : text ∈ e.2) :
    ∃ r, Regex.read? text.pattern = some r ∧ r.vetted = true ∧
      (r.blindToReturns = true ∨ e.1 = "for-of") := by
  have listed : (e.1.toList, text.pattern.toList) ∈
      tables.flatMap fun t => t.entries.flatMap patterns :=
    List.mem_flatMap.mpr ⟨t, ht, List.mem_flatMap.mpr ⟨e, he, List.mem_map.mpr ⟨text, mem, rfl⟩⟩⟩
  obtain ⟨r, read, passed⟩ := (Option.any_eq_true _ _).mp (tables_vetted _ listed)
  obtain ⟨vetted, returns⟩ := Bool.and_eq_true_iff.mp passed
  refine ⟨r, read, vetted, (Bool.or_eq_true_iff.mp returns).imp_right fun same => ?_⟩
  exact String.toList_injective (beq_iff_eq.mp same)

theorem guardedText_readable :
    ∀ p ∈ guardedText.patterns .standard, (Reader.standard.read? p).isSome = true := by
  decide +kernel

theorem tables_readable : ∀ t ∈ tables, ∀ e ∈ t.entries, Entry.Readable .standard e := by
  intro t ht e he
  obtain ⟨named, ruled⟩ := tables_named t ht e he
  refine ⟨named, ruled, fun text mem => ?_⟩
  rcases texts_plain ht he mem with plain | guarded
  · obtain ⟨r, read, _, _⟩ := exists_read ht he mem
    rw [plain, RuleText.patterns, List.forall_mem_singleton, Reader.standard_read?, read]
    rfl
  · exact guarded ▸ guardedText_readable

end Signatures

namespace Catalog

theorem builtin_of_ofTables {c : Catalog} (made : ofTables Signatures.tables = .ok c) :
    builtin = c := by
  rw [builtin, made]
  rfl

theorem ofTables_builtin : ofTables Signatures.tables = .ok builtin := by
  obtain ⟨c, made, _⟩ := ofTables_of_readable Signatures.tables_readable Signatures.tables_distinct
  rw [builtin_of_ofTables made, made]

/-- The built-in signature of an identifier is the one of the last table that has it. -/
theorem get?_builtin (id : String) : builtin.get? id = tablesSignature? .standard Signatures.tables id := by
  obtain ⟨c, made, here, _⟩ :=
    ofTables_of_readable Signatures.tables_readable Signatures.tables_distinct
  rw [builtin_of_ofTables made]
  exact here id

theorem ids_builtin :
    builtin.ids = (Signatures.tables.flatMap fun t => t.entries.map Prod.fst).eraseDups := by
  obtain ⟨c, made, _, ids⟩ :=
    ofTables_of_readable Signatures.tables_readable Signatures.tables_distinct
  rw [builtin_of_ofTables made, ids]

theorem size_builtin_le : builtin.size ≤ 221 := by
  have listed : builtin.ids ⊆ Signatures.tables.flatMap fun t => t.entries.map Prod.fst := by
    rw [ids_builtin]
    exact fun id mem => List.mem_eraseDups.mp mem
  have shorter := (List.subperm_of_subset builtin.distinct listed).length_le
  rw [List.length_map] at shorter
  exact Nat.le_trans shorter (by decide +kernel)

/-- A signature of a catalog is an entry of one of its tables. -/
theorem exists_entry {reader : Pattern.Reader} {tables : List Table} {c : Catalog}
    (made : ofTables tables reader = .ok c) {s : Signature} (mem : s ∈ c.signatures) :
    ∃ t ∈ tables, ∃ texts, (s.id, texts) ∈ t.entries ∧
      texts.mapM (RuleText.compile? reader) = some s.rules := by
  obtain ⟨before, t, after, whole, ⟨_, texts, he, compiled⟩, _⟩ :=
    ((reads_of_ofTables made).mem_signatures s).mp mem
  exact ⟨t, whole ▸ List.mem_append_right before List.mem_cons_self, texts, he, compiled⟩

/-- Each rule of a catalog is written down in one of its tables. -/
theorem exists_ruleText {reader : Pattern.Reader} {tables : List Table} {c : Catalog}
    (made : ofTables tables reader = .ok c) {s : Signature} (mem : s ∈ c.signatures) {rule : Rule}
    (hr : rule ∈ s.rules) :
    ∃ t ∈ tables, ∃ texts, (s.id, texts) ∈ t.entries ∧
      ∃ text ∈ texts, text.compile? reader = some rule := by
  obtain ⟨t, ht, texts, he, compiled⟩ := exists_entry made mem
  exact ⟨t, ht, texts, he, exists_of_mem_mapM compiled hr⟩

/-- All that is to be known of a built-in rule to follow it from one text to another. -/
theorem builtin_rule {s : Signature} (mem : s ∈ builtin.signatures) {rule : Rule}
    (hr : rule ∈ s.rules) :
    (∃ r, rule = .anywhere r ∧ r.vetted = true) ∨
      Signatures.guardedText.compile? .standard = some rule := by
  obtain ⟨t, ht, texts, he, text, htext, reads⟩ := exists_ruleText ofTables_builtin mem hr
  rcases Signatures.texts_plain ht he htext with plain | guarded
  · obtain ⟨r, read, vetted, _⟩ := Signatures.exists_read ht he htext
    rw [plain, RuleText.compile?, Pattern.Reader.standard_read?, read] at reads
    exact .inl ⟨r, (Option.some.inj reads).symm, vetted⟩
  · exact .inr (guarded ▸ reads)

end Catalog
end FeatureScan
