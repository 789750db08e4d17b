import FeatureScan.Proofs.CatalogReading

/-!
Which tables make a catalog. Within one table an identifier is registered once, and a later table
may register it anew. The check looks at one table at a time, so it misses an identifier that two
tables of one category register; where no two tables do so, it finds every repetition within a
category.
-/

namespace FeatureScan
namespace Catalog

open Pattern (Reader)

/-- Every entry has an identifier and rules, and every pattern can be read. -/
structure Registrable (reader : Reader) (tables : List Table) : Prop where
  named : ∀ t ∈ tables, ∀ e ∈ t.entries, e.1 ≠ ""
  ruled : ∀ t ∈ tables, ∀ e ∈ t.entries, e.2 ≠ []
  read : ∀ t ∈ tables, ∀ e ∈ t.entries, ∀ text ∈ e.2, ∀ p ∈ text.patterns reader,
    ∃ r, reader.read p = .ok r

/-- The identifiers that all tables of a category register, in order. -/
def registered (tables : List Table) (category : Category) : List String :=
  (tables.filter (·.category = category)).flatMap Table.ids

/-- No two tables of one category register the same identifier. -/
def Apart (tables : List Table) : Prop :=
  tables.Pairwise fun t u => t.category = u.category → t.ids.Disjoint u.ids

theorem registrable_iff {reader : Reader} {tables : List Table} :
    Registrable reader tables ↔ ∀ t ∈ tables, ∀ e ∈ t.entries, Entry.Readable reader e := by
  simp only [Entry.Readable, Reader.read?, Option.isSome_iff_exists, toOption_eq_some]
  constructor
  · rintro ⟨named, ruled, read⟩ t ht e he
    exact ⟨named t ht e he, ruled t ht e he, read t ht e he⟩
  · intro all
    exact ⟨fun t ht e he => (all t ht e he).1, fun t ht e he => (all t ht e he).2.1,
      fun t ht e he => (all t ht e he).2.2⟩

theorem nodup_registered_iff {tables : List Table} :
    (∀ category, (registered tables category).Nodup) ↔
      (∀ t ∈ tables, t.ids.Nodup) ∧ Apart tables := by
  simp only [registered, List.nodup_flatMap, List.mem_filter, decide_eq_true_eq,
    List.pairwise_filter, forall_and]
  refine and_congr ⟨fun all t ht => all t.category t ⟨ht, rfl⟩, fun all _ t ht => all t ht.1⟩ ?_
  constructor
  · intro all
    refine List.pairwise_iff_getElem.mpr fun i j hi hj before same => ?_
    exact List.pairwise_iff_getElem.mp (all _) i j hi hj before rfl same.symm
  · intro apart category
    exact apart.imp fun disjoint here there => disjoint (here.trans there.symm)

/-- Whatever reads the patterns, tables make a catalog if each entry can be registered and no table
repeats an identifier. So what is registered twice under one category is refused, except by two
tables. -/
theorem accepted_iff_unambiguous (reader : Reader) (tables : List Table) :
    ((∃ c, ofTables tables reader = .ok c) ↔
        Registrable reader tables ∧ ∀ t ∈ tables, t.ids.Nodup) ∧
      ((∃ c, ofTables tables reader = .ok c) ∧ Apart tables ↔
        Registrable reader tables ∧ ∀ category, (registered tables category).Nodup) := by
  have accepted : (∃ c, ofTables tables reader = .ok c) ↔
      Registrable reader tables ∧ ∀ t ∈ tables, t.ids.Nodup := by
    rw [registrable_iff, ← forall₂_and]
    exact exists_addTables.trans
      (forall₂_congr fun t _ => ⟨fun h => ⟨h.readable, h.distinct⟩, fun h => ⟨h.1, h.2⟩⟩)
  refine ⟨accepted, ?_⟩
  rw [accepted, nodup_registered_iff, and_assoc]

/-- Two tables of one category, and one of another category between them. -/
def splitTables : List Table :=
  [⟨.css, [feature "a" ["x"]]⟩, ⟨.html, [feature "b" ["y"]]⟩, ⟨.css, [feature "a" ["z"]]⟩]

/-- An identifier is registered twice under one category, and the tables make a catalog, in which
the second registration has replaced the first one. -/
theorem repetition_across_tables_accepted :
    Registrable .standard splitTables ∧ registered splitTables .css = ["a", "a"] ∧
      ∃ c rule, ofTables splitTables = .ok c ∧
        RuleText.compile? .standard (.anywhere "z") = some rule ∧
        c.get? "a" = some ⟨"a", .css, [rule]⟩ := by
  have readable : ∀ t ∈ splitTables, ∀ e ∈ t.entries, Entry.Readable .standard e := by
    decide +kernel
  have distinct : ∀ t ∈ splitTables, t.ids.Nodup := by decide +kernel
  obtain ⟨c, made⟩ := exists_addTables.mpr fun t ht => ⟨readable t ht, distinct t ht⟩
  have reads := reads_of_ofTables made
  obtain ⟨rule, compiled⟩ : ∃ rule, RuleText.compile? .standard (.anywhere "z") = some rule :=
    Option.isSome_iff_exists.mp (by decide +kernel)
  have last : LastRegistration .standard splitTables ⟨"a", .css, [rule]⟩ :=
    ⟨splitTables.take 2, ⟨.css, [feature "a" ["z"]]⟩, [], rfl,
      ⟨rfl, [.anywhere "z"], by simp [feature], by simp [compiled]⟩, nofun⟩
  refine ⟨registrable_iff.mpr readable, by decide +kernel, c, rule, made, compiled, ?_⟩
  exact (reads.get?_eq _ _).mpr ⟨(reads.mem_signatures _).mpr last, rfl⟩

end Catalog
end FeatureScan
