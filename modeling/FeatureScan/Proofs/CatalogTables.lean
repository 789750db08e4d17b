import FeatureScan.Catalog
import FeatureScan.Proofs.Outcome

/-!
What a catalog of tables gives for an identifier: the signature of the last table that
registers it. Tables without a fault are all registered.
-/

namespace FeatureScan

open Pattern (Reader)

namespace Entry

/-- The signature of an entry whose patterns can all be read. -/
def signature? (reader : Reader) (category : Category) (e : Entry) : Option Signature :=
  (e.2.mapM (RuleText.compile? reader)).map fun rules => ⟨e.1, category, rules⟩

/-- The entry has an identifier and rules, and its patterns can all be read. -/
def Readable (reader : Reader) (e : Entry) : Prop :=
  e.1 ≠ "" ∧ e.2 ≠ [] ∧
    ∀ text ∈ e.2, ∀ p ∈ text.patterns reader, (reader.read? p).isSome = true

instance (reader : Reader) (e : Entry) : Decidable (Readable reader e) :=
  inferInstanceAs (Decidable (_ ∧ _ ∧ _))

end Entry

variable {reader : Reader}

theorem RuleText.isSome_compile? (text : RuleText) :
    (text.compile? reader).isSome = true ↔
      ∀ p ∈ text.patterns reader, (reader.read? p).isSome = true := by
  cases text with
  | anywhere p => simp [compile?, patterns]
  | unlessLineHolds p word =>
      cases first : reader.read? p <;> cases second : reader.read? (reader.escape word) <;>
        simp [compile?, patterns, first, second]

theorem RuleText.compile?_unlessLineHolds {p word : String} {pattern rejected : Pattern.Regex} :
    (RuleText.unlessLineHolds p word).compile? reader = some (.guarded pattern rejected) ↔
      reader.read p = .ok pattern ∧ reader.read (reader.escape word) = .ok rejected := by
  simp [compile?, Reader.read?, Option.bind_eq_some_iff, toOption_eq_some]

theorem Entry.Readable.exists_rules {e : Entry} (readable : Readable reader e) :
    ∃ rules, e.2.mapM (RuleText.compile? reader) = some rules := by
  refine Option.isSome_iff_exists.mp (isSome_mapM_iff.mpr fun text mem => ?_)
  exact text.isSome_compile?.mpr (readable.2.2 text mem)

namespace Signature

theorem readPattern_eq_ok {id pattern : String} {r : Pattern.Regex} :
    readPattern reader id pattern = .ok r ↔ reader.read? pattern = some r :=
  mapError_eq_ok.trans toOption_eq_some.symm

theorem compileRule_eq_ok {id : String} {text : RuleText} {rule : Rule} :
    compileRule reader id text = .ok rule ↔ text.compile? reader = some rule := by
  cases text with
  | anywhere p => simp only [compileRule, RuleText.compile?, map_eq_ok, readPattern_eq_ok,
      Option.map_eq_some_iff]
  | unlessLineHolds p word =>
      simp only [compileRule, RuleText.compile?, bind_eq_ok, map_eq_ok, readPattern_eq_ok,
        Option.bind_eq_bind, Option.bind_eq_some_iff, Option.pure_def, Option.some.injEq]

theorem compileRules_eq_ok {id : String} {texts : List RuleText} {rules : List Rule} :
    compileRules reader id texts = .ok rules ↔
      texts.mapM (RuleText.compile? reader) = some rules := by
  induction texts generalizing rules with
  | nil => simp [compileRules, pure]
  | cons text rest ih =>
      simp only [compileRules, List.mapM_cons, bind_eq_ok, map_eq_ok, compileRule_eq_ok, ih,
        Option.bind_eq_bind, Option.bind_eq_some_iff, Option.pure_def, Option.some.injEq]

/-- An entry without a fault is compiled. -/
theorem compile_of_readable (category : Category) {seen : List String} {e : Entry}
    (readable : Entry.Readable reader e) (fresh : e.1 ∉ seen) :
    ∃ s, compile reader category seen e = .ok s ∧
      Entry.signature? reader category e = some s ∧ s.id = e.1 := by
  obtain ⟨rules, read⟩ := readable.exists_rules
  obtain ⟨named, ruled, _⟩ := readable
  refine ⟨⟨e.1, category, rules⟩, ?_, ?_, rfl⟩
  · rw [compile, if_neg named, if_neg ruled, if_neg fresh, compileRules_eq_ok.mpr read]
    rfl
  · rw [Entry.signature?, read]
    rfl

end Signature

namespace Catalog

theorem get?_register (c : Catalog) (s : Signature) (id : String) :
    (c.register s).get? id = if s.id = id then some s else c.get? id := by
  unfold get?
  cases known : c.index.get? s.id with
  | some pos =>
      obtain ⟨signatures, index⟩ := register_known known
      obtain ⟨inside, here⟩ := List.getElem?_eq_some_iff.mp ((c.indexed s.id pos).mp known)
      rw [List.length_map] at inside
      rw [signatures, index]
      split
      next same => rw [← same, known, Option.bind_some, List.getElem?_set_self inside]
      next other =>
        refine Option.bind_congr fun pos' known' => List.getElem?_set_ne fun same => other ?_
        subst same
        exact Option.some.inj (((c.indexed s.id pos).mp known).symm.trans
          ((c.indexed id pos).mp known'))
  | none =>
      obtain ⟨signatures, index⟩ := register_unknown known
      rw [signatures, index, Dictionary.get?_insert]
      split
      next => simp
      next =>
        refine Option.bind_congr fun pos known' => List.getElem?_append_left ?_
        have inside := (List.getElem?_eq_some_iff.mp ((c.indexed id pos).mp known')).1
        rwa [List.length_map] at inside

theorem ids_register (c : Catalog) (s : Signature) :
    (c.register s).ids = if s.id ∈ c.ids then c.ids else c.ids ++ [s.id] := by
  cases known : c.index.get? s.id with
  | some pos =>
      have contained : c.contains s.id = true := by
        rw [contains, known]
        rfl
      rw [if_pos (contains_iff.mp contained), ids, (register_known known).1, map_id_set known]
      rfl
  | none =>
      have absent : s.id ∉ c.ids := by
        rw [← contains_iff, contains, known]
        decide
      rw [if_neg absent, ids, (register_unknown known).1, List.map_append]
      rfl

/-- Registering comes to the same for the identifiers, each at its first place, as writing
the new one behind the old ones. -/
theorem eraseDups_ids_register (c : Catalog) (s : Signature) (later : List String) :
    ((c.register s).ids ++ later).eraseDups = (c.ids ++ s.id :: later).eraseDups := by
  rw [ids_register]
  split
  next known =>
    have removed : (s.id :: later).removeAll c.ids = later.removeAll c.ids :=
      List.filter_cons_of_neg (by simpa using known)
    rw [List.eraseDups_append, List.eraseDups_append, removed]
  next => rw [List.append_assoc, List.singleton_append]

/-- What a table gives for an identifier. -/
def tableSignature? (reader : Reader) (category : Category) (entries : List Entry) (id : String) :
    Option Signature :=
  (entries.find? fun e => e.1 == id).bind (Entry.signature? reader category)

theorem registerAll_of_readable (category : Category) {seen : List String} (c : Catalog)
    {entries : List Entry} (readable : ∀ e ∈ entries, Entry.Readable reader e)
    (distinct : (entries.map Prod.fst).Nodup) (fresh : ∀ e ∈ entries, e.1 ∉ seen) :
    ∃ c', registerAll reader category seen c entries = .ok c' ∧
      (∀ id, c'.get? id = (tableSignature? reader category entries id).or (c.get? id)) ∧
      ∀ later, (c'.ids ++ later).eraseDups =
        (c.ids ++ (entries.map Prod.fst ++ later)).eraseDups := by
  induction entries generalizing seen c with
  | nil => exact ⟨c, rfl, fun id => rfl, fun later => rfl⟩
  | cons e rest ih =>
      rw [List.map_cons, List.nodup_cons] at distinct
      obtain ⟨s, compiled, signature, named⟩ := Signature.compile_of_readable category
        (readable e List.mem_cons_self) (fresh e List.mem_cons_self)
      have later : ∀ f ∈ rest, f.1 ∉ e.1 :: seen := by
        intro f hf mem
        rcases List.mem_cons.mp mem with same | mem
        · exact distinct.1 (same ▸ List.mem_map_of_mem hf)
        · exact fresh f (List.mem_cons_of_mem e hf) mem
      obtain ⟨c', added, here, places⟩ := ih (c.register s)
        (fun f hf => readable f (List.mem_cons_of_mem e hf)) distinct.2 later
      refine ⟨c', ?_, fun id => ?_, fun behind => ?_⟩
      · rw [registerAll, compiled]
        exact added
      · rw [here, get?_register, named]
        unfold tableSignature?
        by_cases same : e.1 = id
        · -- The identifier is not registered again in the rest of the table.
          have absent : rest.find? (fun f => f.1 == id) = none := by
            rw [List.find?_eq_none]
            intro f hf repeated
            exact distinct.1 (same ▸ beq_iff_eq.mp repeated ▸ List.mem_map_of_mem hf)
          rw [absent, if_pos same, List.find?_cons_of_pos (by simp [same])]
          rw [Option.bind_some, signature]
          rfl
        · rw [if_neg same, List.find?_cons_of_neg (by simp [same])]
      · rw [places, eraseDups_ids_register, named]
        rfl

/-- The catalog of tables without a fault, seen from its identifiers. -/
theorem addTables_of_readable (c : Catalog) {tables : List Table}
    (readable : ∀ t ∈ tables, ∀ e ∈ t.entries, Entry.Readable reader e)
    (distinct : ∀ t ∈ tables, (t.entries.map Prod.fst).Nodup) :
    ∃ c', c.addTables reader tables = .ok c' ∧
      (∀ id, c'.get? id =
        tables.foldl (fun found t => (tableSignature? reader t.category t.entries id).or found)
          (c.get? id)) ∧
      ∀ later, (c'.ids ++ later).eraseDups =
        (c.ids ++ (tables.flatMap (fun t => t.entries.map Prod.fst) ++ later)).eraseDups := by
  induction tables generalizing c with
  | nil => exact ⟨c, rfl, fun id => rfl, fun later => rfl⟩
  | cons t rest ih =>
      obtain ⟨c', added, here, places⟩ := registerAll_of_readable t.category c
        (readable t List.mem_cons_self) (distinct t List.mem_cons_self)
        (fun _ _ => List.not_mem_nil)
      obtain ⟨c'', more, there, places'⟩ := ih c'
        (fun u hu => readable u (List.mem_cons_of_mem t hu))
        (fun u hu => distinct u (List.mem_cons_of_mem t hu))
      refine ⟨c'', ?_, fun id => ?_, fun later => ?_⟩
      · rw [addTables, added]
        exact more
      · rw [there, here, List.foldl_cons]
      · rw [places', places, List.flatMap_cons, List.append_assoc]

/-- What tables give for an identifier, the last of them that has it counting. -/
def tablesSignature? (reader : Reader) (tables : List Table) (id : String) : Option Signature :=
  tables.foldl (fun found t => (tableSignature? reader t.category t.entries id).or found) none

theorem eraseDups_eq_self {l : List String} (distinct : l.Nodup) : l.eraseDups = l := by
  induction l with
  | nil => rfl
  | cons a rest ih =>
      obtain ⟨apart, distinct⟩ := List.nodup_cons.mp distinct
      have kept : rest.filter (fun b => !b == a) = rest :=
        List.filter_eq_self.mpr fun b hb => by
          simp only [Bool.not_eq_true', beq_eq_false_iff_ne]
          exact fun same => apart (same ▸ hb)
      rw [List.eraseDups_cons, kept, ih distinct]

theorem ofTables_of_readable {tables : List Table}
    (readable : ∀ t ∈ tables, ∀ e ∈ t.entries, Entry.Readable reader e)
    (distinct : ∀ t ∈ tables, (t.entries.map Prod.fst).Nodup) :
    ∃ c, ofTables tables reader = .ok c ∧ (∀ id, c.get? id = tablesSignature? reader tables id) ∧
      c.ids = (tables.flatMap fun t => t.entries.map Prod.fst).eraseDups := by
  obtain ⟨c, made, here, places⟩ := addTables_of_readable empty readable distinct
  refine ⟨c, made, here, ?_⟩
  have places := places []
  have once : c.ids.eraseDups = c.ids := eraseDups_eq_self c.distinct
  rwa [List.append_nil, List.append_nil, once] at places

end Catalog
end FeatureScan
