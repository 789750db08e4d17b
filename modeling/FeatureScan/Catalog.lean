import FeatureScan.Dictionary
import FeatureScan.Support
import FeatureScan.Rule
import FeatureScan.Text.Quoted

/-!
Catalogs of signatures. A catalog is built from tables, one category each, read from left
to right: an identifier that an earlier table registered keeps its place and takes the
category and the rules of the later table.
-/

namespace FeatureScan

structure Signature where
  id : String
  category : Category
  rules : List Rule
  deriving Repr, DecidableEq

/-- A table of entries under one category. -/
structure Table where
  category : Category
  entries : List Entry
  deriving Repr, DecidableEq

inductive CatalogError where
  | emptyIdentifier (category : Category)
  | noRules (id : String)
  | duplicate (id : String) (category : Category)
  /-- The reason is what the reader finds wrong with the pattern. -/
  | invalidPattern {reason : String} (id pattern : String)
  deriving Repr, DecidableEq

namespace CatalogError

/-- What is wrong, in words. -/
def message : CatalogError → String
  | .emptyIdentifier category =>
      "Empty feature identifier in " ++ category.name ++ " signatures"
  | .noRules id => "Feature " ++ id ++ " has no detection rules"
  | .duplicate id category =>
      "Feature " ++ id ++ " is registered twice in " ++ category.name ++ " signatures"
  | @invalidPattern reason id pattern =>
      "Invalid pattern " ++ Text.quoted pattern ++ " for feature " ++ id ++ ": " ++ reason

end CatalogError

namespace Signature

/-- Whether the text shows the feature: one of the rules matches. -/
def isMatch (s : Signature) (h : Pattern.Haystack) : Bool := s.rules.any (·.isMatch h)

variable (reader : Pattern.Reader)

def readPattern (id pattern : String) : Except CatalogError Pattern.Regex :=
  (reader.read pattern).mapError fun reason => @CatalogError.invalidPattern reason id pattern

def compileRule (id : String) : RuleText → Except CatalogError Rule
  | .anywhere p => (readPattern reader id p).map .anywhere
  | .unlessLineHolds p word => do
      let pattern ← readPattern reader id p
      (readPattern reader id (reader.escape word)).map (.guarded pattern)

def compileRules (id : String) : List RuleText → Except CatalogError (List Rule)
  | [] => .ok []
  | text :: rest => do
      let rule ← compileRule reader id text
      (compileRules id rest).map (rule :: ·)

/-- The signature of an entry in a table that has registered the identifiers `seen`. -/
def compile (category : Category) (seen : List String) (e : Entry) :
    Except CatalogError Signature :=
  if e.1 = "" then .error (.emptyIdentifier category)
  else if e.2 = [] then .error (.noRules e.1)
  else if e.1 ∈ seen then .error (.duplicate e.1 category)
  else (compileRules reader e.1 e.2).map fun rules => ⟨e.1, category, rules⟩

end Signature

/-- Signatures with an index from their identifiers to their positions. -/
structure Catalog where
  /-- The signatures in scan order. -/
  signatures : List Signature
  index : Dictionary Nat
  indexed : ∀ id pos,
    index.get? id = some pos ↔ (signatures.map Signature.id)[pos]? = some id

namespace Catalog

def empty : Catalog := ⟨[], .empty, by simp⟩

def size (c : Catalog) : Nat := c.signatures.length

def isEmpty (c : Catalog) : Bool := c.signatures.isEmpty

def ids (c : Catalog) : List String := c.signatures.map Signature.id

def get? (c : Catalog) (id : String) : Option Signature :=
  (c.index.get? id).bind fun pos => c.signatures[pos]?

def contains (c : Catalog) (id : String) : Bool := (c.index.get? id).isSome

/-- The identifiers whose signature is of the category, in scan order. -/
def idsIn (c : Catalog) (category : Category) : List String :=
  (c.signatures.filter (·.category = category)).map Signature.id

/-- Each identifier has one position, so none is registered twice. -/
theorem distinct (c : Catalog) : (c.signatures.map Signature.id).Nodup := by
  refine List.pairwise_iff_getElem.mpr fun i j hi hj before same => ?_
  have first := (c.indexed _ i).mpr (List.getElem?_eq_getElem hi)
  have second := (c.indexed _ j).mpr (List.getElem?_eq_getElem hj)
  rw [same, second] at first
  exact Nat.ne_of_gt before (Option.some.inj first)

theorem get?_eq_some_iff {c : Catalog} {id : String} {s : Signature} :
    c.get? id = some s ↔ s ∈ c.signatures ∧ s.id = id := by
  rw [get?, Option.bind_eq_some_iff]
  constructor
  · rintro ⟨pos, known, here⟩
    have named := (c.indexed id pos).mp known
    rw [List.getElem?_map, here] at named
    exact ⟨List.mem_of_getElem? here, Option.some.inj named⟩
  · rintro ⟨mem, rfl⟩
    obtain ⟨pos, here⟩ := List.getElem?_of_mem mem
    refine ⟨pos, (c.indexed s.id pos).mpr ?_, here⟩
    rw [List.getElem?_map, here, Option.map_some]

theorem contains_iff {c : Catalog} {id : String} : c.contains id = true ↔ id ∈ c.ids := by
  rw [contains, Option.isSome_iff_exists, ids, List.mem_iff_getElem?]
  exact exists_congr (c.indexed id)

theorem map_id_set {c : Catalog} {s : Signature} {pos : Nat}
    (known : c.index.get? s.id = some pos) :
    (c.signatures.set pos s).map Signature.id = c.signatures.map Signature.id := by
  obtain ⟨_, here⟩ := List.getElem?_eq_some_iff.mp ((c.indexed s.id pos).mp known)
  rw [List.map_set, ← here, List.set_getElem_self]

theorem indexed_append {c : Catalog} {s : Signature} (unknown : c.index.get? s.id = none)
    (id : String) (pos : Nat) :
    (c.index.insert s.id c.signatures.length).get? id = some pos ↔
      ((c.signatures ++ [s]).map Signature.id)[pos]? = some id := by
  have here := c.indexed id pos
  rw [Dictionary.get?_insert, List.map_append, List.getElem?_append, List.length_map]
  by_cases before : pos < c.signatures.length
  · rw [if_pos before, ← here]
    split
    next same => simp [← same, unknown, Nat.ne_of_gt before]
    next => rfl
  · have beyond : (c.signatures.map Signature.id)[pos]? = none := by
      rw [List.getElem?_eq_none_iff, List.length_map]
      exact Nat.le_of_not_lt before
    rw [if_neg before, List.map_cons, List.map_nil, List.getElem?_singleton]
    split
    next same =>
      have last : c.signatures.length = pos ↔ pos - c.signatures.length = 0 := by omega
      simp [same, last]
    next other => simp [here, beyond, other]

/-- Registers a signature: over the one with its identifier, or else at the end. -/
def register (c : Catalog) (s : Signature) : Catalog :=
  match known : c.index.get? s.id with
  | some pos => ⟨c.signatures.set pos s, c.index, by rw [map_id_set known]; exact c.indexed⟩
  | none =>
      ⟨c.signatures ++ [s], c.index.insert s.id c.signatures.length, indexed_append known⟩

theorem register_known {c : Catalog} {s : Signature} {pos : Nat}
    (known : c.index.get? s.id = some pos) :
    (c.register s).signatures = c.signatures.set pos s ∧ (c.register s).index = c.index := by
  unfold register
  split
  next there => cases known.symm.trans there; exact ⟨rfl, rfl⟩
  next unknown => cases known.symm.trans unknown

theorem register_unknown {c : Catalog} {s : Signature} (unknown : c.index.get? s.id = none) :
    (c.register s).signatures = c.signatures ++ [s] ∧
      (c.register s).index = c.index.insert s.id c.signatures.length := by
  unfold register
  split
  next known => cases unknown.symm.trans known
  next => exact ⟨rfl, rfl⟩

section

variable (reader : Pattern.Reader)

def registerAll (category : Category) (seen : List String) (c : Catalog) :
    List Entry → Except CatalogError Catalog
  | [] => .ok c
  | e :: rest => do
      let s ← Signature.compile reader category seen e
      registerAll category (e.1 :: seen) (c.register s) rest

/-- Adds the tables to a catalog. -/
def addTables (c : Catalog) : List Table → Except CatalogError Catalog
  | [] => .ok c
  | t :: rest => do
      let c ← registerAll reader t.category [] c t.entries
      addTables c rest

end

/-- The catalog of the tables, or the first fault in their order. -/
def ofTables (tables : List Table) (reader : Pattern.Reader := .standard) :
    Except CatalogError Catalog :=
  empty.addTables reader tables

end Catalog
end FeatureScan
