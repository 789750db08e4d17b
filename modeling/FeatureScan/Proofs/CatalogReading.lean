import FeatureScan.Proofs.CatalogTables
import Mathlib.Data.List.Induction
import Mathlib.Data.List.Nodup

/-!
The reading of tables from left to right. Without a fault they make a catalog that holds
each identifier at the place of its first registration, with what its last registration
says. Otherwise the fault of the first faulty entry is told.
-/

namespace FeatureScan

open Pattern (Reader)

/-- The fault of the first of these patterns of a feature that cannot be read. -/
def FirstUnreadable (reader : Reader) (id : String) (patterns : List String)
    (fault : CatalogError) : Prop :=
  ∃ before p after reason, patterns = before ++ p :: after ∧
    (∀ q ∈ before, (reader.read? q).isSome = true) ∧ reader.read p = .error reason ∧
    fault = @CatalogError.invalidPattern reason id p

/-- What is wrong with an entry in a table that has registered the identifiers `seen`. Of
several faults the one that stands first here is told. -/
inductive Entry.Fault (reader : Reader) (category : Category) (seen : List String) :
    Entry → CatalogError → Prop
  | emptyIdentifier (texts : List RuleText) :
      Fault reader category seen ("", texts) (.emptyIdentifier category)
  | noRules {id : String} (named : id ≠ "") : Fault reader category seen (id, []) (.noRules id)
  | duplicate {id : String} {texts : List RuleText} (named : id ≠ "") (ruled : texts ≠ [])
      (again : id ∈ seen) : Fault reader category seen (id, texts) (.duplicate id category)
  | invalidPattern {id : String} {texts : List RuleText} {fault : CatalogError} (named : id ≠ "")
      (fresh : id ∉ seen)
      (first : FirstUnreadable reader id (texts.flatMap (RuleText.patterns reader)) fault) :
      Fault reader category seen (id, texts) fault

namespace Table

def ids (t : Table) : List String := t.entries.map Prod.fst

/-- Each entry can be registered, under an identifier of its own. -/
structure Faultless (reader : Reader) (t : Table) : Prop where
  readable : ∀ e ∈ t.entries, Entry.Readable reader e
  distinct : t.ids.Nodup

instance (reader : Reader) (t : Table) : Decidable (t.Faultless reader) :=
  decidable_of_iff ((∀ e ∈ t.entries, Entry.Readable reader e) ∧ t.ids.Nodup)
    ⟨fun ⟨a, b⟩ => ⟨a, b⟩, fun ⟨a, b⟩ => ⟨a, b⟩⟩

/-- The table has an entry that stands for the signature. -/
def Registers (reader : Reader) (t : Table) (s : Signature) : Prop :=
  s.category = t.category ∧
    ∃ texts, (s.id, texts) ∈ t.entries ∧ texts.mapM (RuleText.compile? reader) = some s.rules

/-- The fault is that of an entry before which the table has none. -/
def FirstFault (reader : Reader) (t : Table) (fault : CatalogError) : Prop :=
  ∃ earlier e later, t.entries = earlier ++ e :: later ∧
    (Table.mk t.category earlier).Faultless reader ∧
    Entry.Fault reader t.category (earlier.map Prod.fst) e fault

end Table

/-- The fault is that of a table before which there is none. -/
def FirstFault (reader : Reader) (tables : List Table) (fault : CatalogError) : Prop :=
  ∃ before t after, tables = before ++ t :: after ∧ (∀ u ∈ before, u.Faultless reader) ∧
    t.FirstFault reader fault

/-- The last of the tables that have the identifier of the signature registers it so. -/
def LastRegistration (reader : Reader) (tables : List Table) (s : Signature) : Prop :=
  ∃ before t after, tables = before ++ t :: after ∧ t.Registers reader s ∧
    ∀ u ∈ after, s.id ∉ u.ids

variable {reader : Reader}

theorem exists_split_cons {α : Type} {Q : List α → α → Prop} {a : α} {list : List α} :
    (∃ before x after, a :: list = before ++ x :: after ∧ Q before x) ↔
      Q [] a ∨ ∃ before x after, list = before ++ x :: after ∧ Q (a :: before) x := by
  constructor
  · rintro ⟨_ | ⟨b, before⟩, x, after, whole, holds⟩
    · cases whole
      exact Or.inl holds
    · cases whole
      exact Or.inr ⟨before, x, after, rfl, holds⟩
  · rintro (holds | ⟨before, x, after, rfl, holds⟩)
    · exact ⟨[], a, list, rfl, holds⟩
    · exact ⟨a :: before, x, after, rfl, holds⟩

theorem Entry.Fault.congr {category : Category} {seen seen' : List String} {e : Entry}
    {fault : CatalogError} (same : ∀ id, id ∈ seen ↔ id ∈ seen')
    (h : Entry.Fault reader category seen e fault) : Entry.Fault reader category seen' e fault := by
  cases h with
  | emptyIdentifier texts => exact .emptyIdentifier texts
  | noRules named => exact .noRules named
  | duplicate named ruled again => exact .duplicate named ruled ((same _).mp again)
  | invalidPattern named fresh first =>
      exact .invalidPattern named (fun again => fresh ((same _).mpr again)) first

section

variable {id p : String} {rest : List String} {fault : CatalogError}

theorem firstUnreadable_of_error {reason : String} (unreadable : reader.read p = .error reason) :
    FirstUnreadable reader id (p :: rest) fault ↔
      fault = @CatalogError.invalidPattern reason id p := by
  constructor
  · rintro ⟨_ | ⟨q, before⟩, p', after, reason', whole, readable, unreadable', rfl⟩
    · cases whole
      cases unreadable.symm.trans unreadable'
      rfl
    · cases whole
      have read := readable p List.mem_cons_self
      rw [Reader.read?, unreadable] at read
      cases read
  · rintro rfl
    exact ⟨[], p, rest, reason, rfl, List.forall_mem_nil _, unreadable, rfl⟩

theorem firstUnreadable_of_ok {r : Pattern.Regex} (read : reader.read p = .ok r) :
    FirstUnreadable reader id (p :: rest) fault ↔ FirstUnreadable reader id rest fault := by
  constructor
  · rintro ⟨_ | ⟨q, before⟩, p', after, reason, whole, readable, unreadable, same⟩
    · cases whole
      cases read.symm.trans unreadable
    · cases whole
      exact ⟨before, p', after, reason, rfl, (List.forall_mem_cons.mp readable).2, unreadable, same⟩
  · rintro ⟨before, p', after, reason, rfl, readable, unreadable, same⟩
    have first : (reader.read? p).isSome = true := by rw [Reader.read?, read]; rfl
    exact ⟨p :: before, p', after, reason, rfl, List.forall_mem_cons.mpr ⟨first, readable⟩,
      unreadable, same⟩

end

namespace Signature

theorem readPattern_of_ok (id : String) {p : String} {r : Pattern.Regex}
    (read : reader.read p = .ok r) : readPattern reader id p = .ok r := by
  rw [readPattern, read]
  rfl

theorem readPattern_of_error (id : String) {p reason : String}
    (unreadable : reader.read p = .error reason) :
    readPattern reader id p = .error (@CatalogError.invalidPattern reason id p) := by
  rw [readPattern, unreadable]
  rfl

theorem compileRules_eq_error {id : String} {texts : List RuleText} {fault : CatalogError} :
    compileRules reader id texts = .error fault ↔
      FirstUnreadable reader id (texts.flatMap (RuleText.patterns reader)) fault := by
  induction texts with
  | nil => simp [compileRules, FirstUnreadable]
  | cons text rest ih =>
      rw [compileRules, List.flatMap_cons]
      cases text with
      | anywhere p =>
          rw [compileRule, RuleText.patterns, List.singleton_append]
          cases read : reader.read p with
          | error reason =>
              rw [readPattern_of_error id read, firstUnreadable_of_error read]
              simp [Except.map, @eq_comm _ fault]
          | ok r =>
              rw [readPattern_of_ok id read, firstUnreadable_of_ok read, ← ih]
              exact map_eq_error
      | unlessLineHolds p word =>
          rw [compileRule, RuleText.patterns, List.cons_append, List.singleton_append]
          cases read : reader.read p with
          | error reason =>
              rw [readPattern_of_error id read, firstUnreadable_of_error read]
              simp [@eq_comm _ fault]
          | ok r =>
              rw [readPattern_of_ok id read, firstUnreadable_of_ok read, ok_bind]
              cases literal : reader.read (reader.escape word) with
              | error reason =>
                  rw [readPattern_of_error id literal, firstUnreadable_of_error literal]
                  simp [Except.map, @eq_comm _ fault]
              | ok rejected =>
                  rw [readPattern_of_ok id literal, firstUnreadable_of_ok literal, ← ih]
                  exact map_eq_error

theorem compile_eq_error {category : Category} {seen : List String} {e : Entry}
    {fault : CatalogError} :
    compile reader category seen e = .error fault ↔ Entry.Fault reader category seen e fault := by
  obtain ⟨id, texts⟩ := e
  constructor
  · intro h
    rw [compile] at h
    split at h
    next unnamed =>
      cases h
      cases unnamed
      exact .emptyIdentifier texts
    next named =>
      split at h
      next unruled =>
        cases h
        cases unruled
        exact .noRules named
      next ruled =>
        split at h
        next again =>
          cases h
          exact .duplicate named ruled again
        next fresh =>
          exact .invalidPattern named fresh (compileRules_eq_error.mp (map_eq_error.mp h))
  · rintro (_ | named | ⟨named, ruled, again⟩ | ⟨named, fresh, first⟩)
    · rfl
    · simp [compile, named]
    · simp [compile, named, ruled, again]
    · have ruled : texts ≠ [] := by
        rintro rfl
        obtain ⟨before, p, after, _, whole, _⟩ := first
        simp at whole
      rw [compile, if_neg named, if_neg ruled, if_neg fresh, map_eq_error]
      exact compileRules_eq_error.mpr first

theorem exists_compile (category : Category) {seen : List String} {e : Entry} :
    (∃ s, compile reader category seen e = .ok s) ↔ Entry.Readable reader e ∧ e.1 ∉ seen := by
  constructor
  · rintro ⟨s, h⟩
    rw [compile] at h
    split at h
    · cases h
    next named =>
      split at h
      · cases h
      next ruled =>
        split at h
        · cases h
        next fresh =>
          obtain ⟨rules, compiled, _⟩ := map_eq_ok.mp h
          have read := isSome_mapM_iff.mp (Option.isSome_iff_exists.mpr
            ⟨rules, compileRules_eq_ok.mp compiled⟩)
          exact ⟨⟨named, ruled, fun text mem => text.isSome_compile?.mp (read text mem)⟩, fresh⟩
  · rintro ⟨readable, fresh⟩
    obtain ⟨s, compiled, _⟩ := compile_of_readable category readable fresh
    exact ⟨s, compiled⟩

end Signature

namespace Catalog

/-- The entries can be registered in a table that has registered the identifiers `seen`. -/
structure Accepted (reader : Reader) (seen : List String) (entries : List Entry) : Prop where
  readable : ∀ e ∈ entries, Entry.Readable reader e
  fresh : ∀ e ∈ entries, e.1 ∉ seen
  distinct : (entries.map Prod.fst).Nodup

theorem accepted_nil (seen : List String) : Accepted reader seen [] := by
  constructor <;> simp

theorem accepted_cons {seen : List String} {e : Entry} {entries : List Entry} :
    Accepted reader seen (e :: entries) ↔
      (Entry.Readable reader e ∧ e.1 ∉ seen) ∧ Accepted reader (e.1 :: seen) entries := by
  constructor
  · rintro ⟨readable, fresh, distinct⟩
    obtain ⟨apart, distinct⟩ := List.nodup_cons.mp distinct
    refine ⟨⟨readable e List.mem_cons_self, fresh e List.mem_cons_self⟩,
      fun f hf => readable f (List.mem_cons_of_mem e hf), fun f hf => ?_, distinct⟩
    rw [List.mem_cons, not_or]
    exact ⟨fun same => apart (same ▸ List.mem_map_of_mem hf), fresh f (List.mem_cons_of_mem e hf)⟩
  · rintro ⟨⟨first, new⟩, readable, fresh, distinct⟩
    refine ⟨List.forall_mem_cons.mpr ⟨first, readable⟩, List.forall_mem_cons.mpr ⟨new, fun f hf =>
      List.not_mem_of_not_mem_cons (fresh f hf)⟩, List.nodup_cons.mpr ⟨fun again => ?_, distinct⟩⟩
    obtain ⟨f, hf, same⟩ := List.mem_map.mp again
    exact fresh f hf (same ▸ List.mem_cons_self)

theorem faultless_iff_accepted {category : Category} {entries : List Entry} :
    (Table.mk category entries).Faultless reader ↔ Accepted reader [] entries :=
  ⟨fun ⟨readable, distinct⟩ => ⟨readable, fun _ _ => List.not_mem_nil, distinct⟩,
    fun ⟨readable, _, distinct⟩ => ⟨readable, distinct⟩⟩

theorem exists_registerAll {category : Category} {seen : List String} {c : Catalog}
    {entries : List Entry} :
    (∃ c', registerAll reader category seen c entries = .ok c') ↔ Accepted reader seen entries := by
  induction entries generalizing seen c with
  | nil => exact ⟨fun _ => accepted_nil seen, fun _ => ⟨c, rfl⟩⟩
  | cons e rest ih =>
      rw [accepted_cons, ← Signature.exists_compile category, registerAll]
      cases Signature.compile reader category seen e with
      | error fault => simp
      | ok s => simp [ih]

theorem registerAll_eq_error {category : Category} {seen : List String} {c : Catalog}
    {entries : List Entry} {fault : CatalogError} :
    registerAll reader category seen c entries = .error fault ↔
      ∃ earlier e later, entries = earlier ++ e :: later ∧ Accepted reader seen earlier ∧
        Entry.Fault reader category (earlier.map Prod.fst ++ seen) e fault := by
  induction entries generalizing seen c with
  | nil => simp [registerAll]
  | cons e rest ih =>
      refine Iff.trans ?_ exists_split_cons.symm
      -- The identifier of the first entry counts as seen for all that follow it.
      have moved : ∀ {earlier f},
          Entry.Fault reader category ((e :: earlier).map Prod.fst ++ seen) f fault ↔
            Entry.Fault reader category (earlier.map Prod.fst ++ e.1 :: seen) f fault := by
        intro earlier f
        have same : ∀ id, id ∈ (e :: earlier).map Prod.fst ++ seen ↔
            id ∈ earlier.map Prod.fst ++ e.1 :: seen :=
          fun id => List.perm_middle.symm.mem_iff
        exact ⟨.congr same, .congr fun id => (same id).symm⟩
      simp only [moved, accepted_cons, accepted_nil, List.map_nil, List.nil_append, true_and,
        ← Signature.exists_compile category, ← Signature.compile_eq_error]
      rw [registerAll]
      cases Signature.compile reader category seen e with
      | error fault => simp
      | ok s => simp [ih, Signature.compile_eq_error]

section

variable {c : Catalog} {t : Table} {fault : CatalogError}

theorem exists_registerAll_iff_faultless :
    (∃ c', registerAll reader t.category [] c t.entries = .ok c') ↔ t.Faultless reader :=
  exists_registerAll.trans faultless_iff_accepted.symm

theorem registerAll_eq_error_iff_firstFault :
    registerAll reader t.category [] c t.entries = .error fault ↔ t.FirstFault reader fault := by
  rw [registerAll_eq_error, Table.FirstFault]
  simp only [faultless_iff_accepted, List.append_nil]

end

theorem exists_addTables {c : Catalog} {tables : List Table} :
    (∃ c', c.addTables reader tables = .ok c') ↔ ∀ t ∈ tables, t.Faultless reader := by
  induction tables generalizing c with
  | nil => simp [addTables]
  | cons t rest ih =>
      rw [List.forall_mem_cons, ← exists_registerAll_iff_faultless (c := c), addTables]
      cases registerAll reader t.category [] c t.entries with
      | error fault => simp
      | ok c' => simp [ih]

theorem addTables_eq_error {c : Catalog} {tables : List Table} {fault : CatalogError} :
    c.addTables reader tables = .error fault ↔ FirstFault reader tables fault := by
  induction tables generalizing c with
  | nil => simp [addTables, FirstFault]
  | cons t rest ih =>
      refine Iff.trans ?_ exists_split_cons.symm
      rw [← registerAll_eq_error_iff_firstFault (c := c)]
      simp only [List.forall_mem_cons, ← exists_registerAll_iff_faultless (t := t) (c := c)]
      rw [addTables]
      cases added : registerAll reader t.category [] c t.entries with
      | error fault' => simp
      | ok c' => simp [ih, FirstFault]

theorem mem_of_find?_entry {entries : List Entry} {id : String} {e : Entry}
    (found : entries.find? (fun f => f.1 == id) = some e) : e ∈ entries ∧ e.1 = id :=
  ⟨List.mem_of_find?_eq_some found, by simpa using List.find?_some found⟩

theorem exists_find?_entry {entries : List Entry} {id : String}
    (known : id ∈ entries.map Prod.fst) : ∃ e, entries.find? (fun f => f.1 == id) = some e := by
  obtain ⟨e, mem, rfl⟩ := List.mem_map.mp known
  exact Option.isSome_iff_exists.mp (List.find?_isSome.mpr ⟨e, mem, by simp⟩)

section

variable {t : Table} (faultless : t.Faultless reader) {id : String}
include faultless

theorem tableSignature?_eq_some {s : Signature} :
    tableSignature? reader t.category t.entries id = some s ↔ t.Registers reader s ∧ s.id = id := by
  rw [tableSignature?, Option.bind_eq_some_iff]
  constructor
  · rintro ⟨e, found, stands⟩
    obtain ⟨mem, named⟩ := mem_of_find?_entry found
    obtain ⟨rules, compiled, rfl⟩ := Option.map_eq_some_iff.mp stands
    exact ⟨⟨rfl, e.2, mem, compiled⟩, named⟩
  · rintro ⟨⟨category, texts, mem, compiled⟩, rfl⟩
    obtain ⟨e, found⟩ := exists_find?_entry (List.mem_map_of_mem (f := Prod.fst) mem)
    obtain ⟨mem', named⟩ := mem_of_find?_entry found
    have same : e = (s.id, texts) := List.inj_on_of_nodup_map faultless.distinct mem' mem named
    refine ⟨e, found, ?_⟩
    rw [same, Entry.signature?, compiled, ← category]
    rfl

theorem tableSignature?_eq_none :
    tableSignature? reader t.category t.entries id = none ↔ id ∉ t.ids := by
  rw [tableSignature?, Option.bind_eq_none_iff]
  constructor
  · intro none known
    obtain ⟨e, found⟩ := exists_find?_entry known
    obtain ⟨rules, compiled⟩ := (faultless.readable e (mem_of_find?_entry found).1).exists_rules
    have stands := none e found
    rw [Entry.signature?, compiled] at stands
    cases stands
  · intro absent e found
    obtain ⟨mem, named⟩ := mem_of_find?_entry found
    exact absurd (List.mem_map.mpr ⟨e, mem, named⟩) absent

end

theorem lastRegistration_concat {tables : List Table} {t : Table} {s : Signature} :
    LastRegistration reader (tables ++ [t]) s ↔
      t.Registers reader s ∨ s.id ∉ t.ids ∧ LastRegistration reader tables s := by
  constructor
  · rintro ⟨before, u, after, whole, registers, absent⟩
    rcases List.eq_nil_or_concat after with rfl | ⟨after, v, rfl⟩
    · obtain ⟨_, same⟩ := List.append_inj' whole rfl
      obtain rfl := (List.cons.inj same).1
      exact Or.inl registers
    · rw [List.concat_eq_append, ← List.cons_append, ← List.append_assoc] at whole
      obtain ⟨rfl, same⟩ := List.append_inj' whole rfl
      obtain rfl := (List.cons.inj same).1
      refine Or.inr ⟨absent t (by simp), before, u, after, rfl, registers, fun w hw => ?_⟩
      exact absent w (by simp [hw])
  · rintro (registers | ⟨absent, before, u, after, rfl, registers, absent'⟩)
    · exact ⟨tables, t, [], rfl, registers, fun u hu => nomatch hu⟩
    · refine ⟨before, u, after ++ [t], by simp, registers, fun v hv => ?_⟩
      rcases List.mem_append.mp hv with hv | hv
      · exact absent' v hv
      · exact List.mem_singleton.mp hv ▸ absent

theorem tablesSignature?_eq_some {tables : List Table} (faultless : ∀ t ∈ tables, t.Faultless reader)
    {id : String} {s : Signature} :
    tablesSignature? reader tables id = some s ↔ LastRegistration reader tables s ∧ s.id = id := by
  -- From the end, since the last table that has the identifier counts.
  induction tables using List.reverseRecOn with
  | nil => simp [tablesSignature?, LastRegistration]
  | append_singleton tables t ih =>
      have before := ih fun u hu => faultless u (List.mem_append_left [t] hu)
      have last : t.Faultless reader := faultless t (by simp)
      have split : tablesSignature? reader (tables ++ [t]) id =
          (tableSignature? reader t.category t.entries id).or (tablesSignature? reader tables id) := by
        simp [tablesSignature?]
      rw [split, Option.or_eq_some_iff, tableSignature?_eq_some last, tableSignature?_eq_none last,
        before, lastRegistration_concat]
      constructor
      · rintro (⟨registers, rfl⟩ | ⟨absent, registered, rfl⟩)
        · exact ⟨Or.inl registers, rfl⟩
        · exact ⟨Or.inr ⟨absent, registered⟩, rfl⟩
      · rintro ⟨registers | ⟨absent, registered⟩, rfl⟩
        · exact Or.inl ⟨registers, rfl⟩
        · exact Or.inr ⟨absent, registered, rfl⟩

/-- The categories divide the identifiers among them. -/
theorem idsIn_perm (c : Catalog) : (Category.all.flatMap c.idsIn).Perm c.ids := by
  unfold idsIn ids
  induction c.signatures with
  | nil => exact .refl _
  | cons s rest ih =>
      refine List.perm_iff_count.mpr fun id => ?_
      have before := ih.count_eq id
      simp only [Category.all, List.flatMap_cons, List.flatMap_nil, List.append_nil,
        List.count_append, List.map_cons, List.count_cons] at before ⊢
      cases category : s.category <;>
        simp only [category, List.filter_cons, reduceCtorEq, decide_true, decide_false, if_true,
          Bool.false_eq_true, if_false, List.map_cons, List.count_cons] <;>
        omega

theorem mem_idsIn {c : Catalog} {category : Category} {id : String} :
    id ∈ c.idsIn category ↔ ∃ s, c.get? id = some s ∧ s.category = category := by
  simp only [idsIn, List.mem_map, List.mem_filter, decide_eq_true_eq, get?_eq_some_iff]
  constructor
  · rintro ⟨s, ⟨mem, here⟩, named⟩
    exact ⟨s, ⟨mem, named⟩, here⟩
  · rintro ⟨s, ⟨mem, named⟩, here⟩
    exact ⟨s, ⟨mem, here⟩, named⟩

/-- The catalog is what the tables say when they are read from left to right. -/
structure Reads (reader : Reader) (tables : List Table) (c : Catalog) : Prop where
  /-- Each identifier once, where it is registered first. -/
  ids_eq : c.ids = (tables.flatMap Table.ids).eraseDups
  distinct : c.ids.Nodup
  mem_signatures : ∀ s, s ∈ c.signatures ↔ LastRegistration reader tables s
  index_eq : ∀ id pos, c.index.get? id = some pos ↔ c.ids[pos]? = some id
  get?_eq : ∀ id s, c.get? id = some s ↔ s ∈ c.signatures ∧ s.id = id
  contains_eq : ∀ id, c.contains id = (c.get? id).isSome
  idsIn_sublist : ∀ category, (c.idsIn category).Sublist c.ids
  idsIn_perm : (Category.all.flatMap c.idsIn).Perm c.ids
  mem_idsIn : ∀ category id,
    id ∈ c.idsIn category ↔ ∃ s, c.get? id = some s ∧ s.category = category

theorem reads_of_ofTables {tables : List Table} {c : Catalog} (made : ofTables tables reader = .ok c) :
    Reads reader tables c := by
  have faultless : ∀ t ∈ tables, t.Faultless reader := exists_addTables.mp ⟨c, made⟩
  obtain ⟨c', made', signatures, ids_eq⟩ := ofTables_of_readable
    (fun t ht => (faultless t ht).readable) (fun t ht => (faultless t ht).distinct)
  obtain rfl := Except.ok.inj (made.symm.trans made')
  refine ⟨ids_eq, c.distinct, fun s => ?_, c.indexed, fun _ _ => get?_eq_some_iff, fun id => ?_,
    fun category => List.filter_sublist.map _, idsIn_perm c, fun _ _ => mem_idsIn⟩
  · have here := @get?_eq_some_iff c s.id s
    rw [signatures, tablesSignature?_eq_some faultless] at here
    simpa using here.symm
  · rw [Bool.eq_iff_iff, contains_iff, Option.isSome_iff_exists, ids, List.mem_map]
    exact exists_congr fun s => get?_eq_some_iff.symm

/-- Tables are read from left to right, with whatever reader: they make a catalog exactly if they
are free of faults, the catalog is what they say, and otherwise their first fault is told. -/
theorem ofTables_reads (reader : Reader) (tables : List Table) :
    ((∃ c, ofTables tables reader = .ok c) ↔ ∀ t ∈ tables, t.Faultless reader) ∧
      (∀ c, ofTables tables reader = .ok c → Reads reader tables c) ∧
      ∀ fault, ofTables tables reader = .error fault ↔ FirstFault reader tables fault :=
  ⟨exists_addTables, fun _ => reads_of_ofTables, fun _ => addTables_eq_error⟩

/-- A table that registers an identifier of an earlier one anew, and a table in which an
entry repeats an identifier and has a pattern that cannot be read. -/
theorem ofTables_reads_again :
    let first : Table := ⟨.css, [feature "a" ["x"], feature "b" ["y"]]⟩
    let second : Table := ⟨.js, [feature "c" ["z"], feature "a" ["w"]]⟩
    let faulty : Table := ⟨.form, [feature "b" ["y"], feature "b" ["("], feature "" []]⟩
    (∃ c, ofTables [first, second] = .ok c ∧ Reads .standard [first, second] c ∧
      c.ids = ["a", "b", "c"] ∧ ∃ rule, RuleText.compile? .standard (.anywhere "w") = some rule ∧
        c.get? "a" = some ⟨"a", .js, [rule]⟩) ∧
      ofTables [first, faulty, second] = .error (.duplicate "b" .form) := by
  intro first second faulty
  have faultless : ∀ t ∈ [first, second], t.Faultless .standard := by decide +kernel
  obtain ⟨c, made⟩ := (ofTables_reads .standard [first, second]).1.mpr faultless
  have reads := (ofTables_reads .standard [first, second]).2.1 c made
  refine ⟨⟨c, made, reads, reads.ids_eq.trans (by decide +kernel), ?_⟩, ?_⟩
  · obtain ⟨rule, compiled⟩ : ∃ rule, RuleText.compile? .standard (.anywhere "w") = some rule :=
      Option.isSome_iff_exists.mp (by decide +kernel)
    have last : LastRegistration .standard [first, second] ⟨"a", .js, [rule]⟩ :=
      ⟨[first], second, [], rfl,
        ⟨rfl, [.anywhere "w"], by simp [second, feature], by simp [compiled]⟩, nofun⟩
    exact ⟨rule, compiled, (reads.get?_eq _ _).mpr ⟨(reads.mem_signatures _).mpr last, rfl⟩⟩
  · refine ((ofTables_reads .standard [first, faulty, second]).2.2 _).mpr ⟨[first], faulty,
      [second], rfl, by decide +kernel, [feature "b" ["y"]], feature "b" ["("], [feature "" []],
      rfl, by decide +kernel, .duplicate (by decide) (by decide) (by decide)⟩

end Catalog
end FeatureScan
