/-!
Finite maps from texts, kept as a list in strict order of the keys. The order of texts
is that of their code points. A map has one list only, so equal maps are equal values,
and listing the keys needs no sorting.
-/

namespace FeatureScan

/-- The value under a key in a list of entries. -/
def lookupEntry {α : Type} (key : String) : List (String × α) → Option α
  | [] => none
  | (k, v) :: rest => if k = key then some v else lookupEntry key rest

/-- Puts a value under a key at its place in an ordered list, over an earlier value. -/
def insertEntry {α : Type} (key : String) (value : α) : List (String × α) → List (String × α)
  | [] => [(key, value)]
  | (k, v) :: rest =>
      if key < k then (key, value) :: (k, v) :: rest
      else if key = k then (key, value) :: rest
      else (k, v) :: insertEntry key value rest

/-- The order of the entries of a map. -/
def OrderedEntries {α : Type} (entries : List (String × α)) : Prop :=
  entries.Pairwise fun a b => a.1 < b.1

theorem fst_mem_insertEntry {α : Type} {key : String} {value : α} {entries : List (String × α)}
    {e : String × α} (h : e ∈ insertEntry key value entries) : e.1 = key ∨ e ∈ entries := by
  induction entries with
  | nil => simp [insertEntry] at h; simp [h]
  | cons hd tl ih =>
      simp only [insertEntry] at h
      split at h
      · simp only [List.mem_cons] at h ⊢
        rcases h with rfl | h
        · exact Or.inl rfl
        · exact Or.inr h
      · split at h
        · simp only [List.mem_cons] at h ⊢
          rcases h with rfl | h
          · exact Or.inl rfl
          · exact Or.inr (Or.inr h)
        · simp only [List.mem_cons] at h ⊢
          rcases h with rfl | h
          · exact Or.inr (Or.inl rfl)
          · exact (ih h).imp id Or.inr

theorem orderedEntries_insertEntry {α : Type} (key : String) (value : α)
    {entries : List (String × α)} (h : OrderedEntries entries) :
    OrderedEntries (insertEntry key value entries) := by
  induction entries with
  | nil => simp [insertEntry, OrderedEntries]
  | cons hd tl ih =>
      obtain ⟨k, v⟩ := hd
      have hk := List.pairwise_cons.mp h
      simp only [insertEntry]
      split
      next below =>
        refine List.pairwise_cons.mpr ⟨fun e he => ?_, h⟩
        rcases List.mem_cons.mp he with rfl | he
        · exact below
        · exact String.lt_trans below (hk.1 e he)
      next notBelow =>
        split
        next same => exact List.pairwise_cons.mpr ⟨same ▸ hk.1, hk.2⟩
        next other =>
          refine List.pairwise_cons.mpr ⟨fun e he => ?_, ih hk.2⟩
          rcases fst_mem_insertEntry he with eq | he
          · have le := String.not_lt.mp notBelow
            by_cases lt : k < key
            · exact eq ▸ lt
            · exact absurd (String.le_antisymm (String.not_lt.mp lt) le) other
          · exact hk.1 e he

theorem lookupEntry_insertEntry {α : Type} (key other : String) (value : α)
    (entries : List (String × α)) :
    lookupEntry other (insertEntry key value entries) =
      if key = other then some value else lookupEntry other entries := by
  induction entries with
  | nil => rfl
  | cons e rest ih =>
      obtain ⟨k, v⟩ := e
      simp only [insertEntry]
      split
      next => rfl
      next =>
        split
        next same =>
          subst same
          simp only [lookupEntry]
          split <;> rfl
        next differs =>
          simp only [lookupEntry, ih]
          by_cases h : k = other
          · rw [if_pos h, if_pos h, if_neg (h ▸ differs)]
          · rw [if_neg h, if_neg h]

theorem lookupEntry_filter_ne {α : Type} (key other : String) (entries : List (String × α)) :
    lookupEntry other (entries.filter fun e => e.1 ≠ key) =
      if key = other then none else lookupEntry other entries := by
  induction entries with
  | nil => simp [lookupEntry]
  | cons e rest ih =>
      obtain ⟨k, v⟩ := e
      by_cases h : k = key
      · subst h
        rw [List.filter_cons_of_neg (by simp), ih]
        split
        next => rfl
        next differs => exact (if_neg differs).symm
      · rw [List.filter_cons_of_pos (by simp [h])]
        simp only [lookupEntry, ih]
        by_cases same : k = other
        · rw [if_pos same, if_pos same, if_neg (same ▸ Ne.symm h)]
        · rw [if_neg same, if_neg same]

structure Dictionary (α : Type) where
  entries : List (String × α)
  ordered : OrderedEntries entries

namespace Dictionary

variable {α : Type}

instance [DecidableEq α] : DecidableEq (Dictionary α) := fun a b =>
  if h : a.entries = b.entries then
    isTrue (by cases a; cases b; cases h; rfl)
  else
    isFalse fun same => h (same ▸ rfl)

def empty : Dictionary α := ⟨[], List.Pairwise.nil⟩

def get? (d : Dictionary α) (key : String) : Option α := lookupEntry key d.entries

def insert (d : Dictionary α) (key : String) (value : α) : Dictionary α :=
  ⟨insertEntry key value d.entries, orderedEntries_insertEntry key value d.ordered⟩

def erase (d : Dictionary α) (key : String) : Dictionary α :=
  ⟨d.entries.filter fun e => e.1 ≠ key, d.ordered.filter _⟩

def keys (d : Dictionary α) : List String := d.entries.map Prod.fst

def size (d : Dictionary α) : Nat := d.entries.length

/-- The map of a list of entries in any order; of two entries with one key the later
one counts. -/
def ofList (entries : List (String × α)) : Dictionary α :=
  entries.foldl (fun d e => d.insert e.1 e.2) empty

@[simp] theorem get?_empty (key : String) : (empty : Dictionary α).get? key = none := rfl

theorem get?_insert (d : Dictionary α) (key other : String) (value : α) :
    (d.insert key value).get? other = if key = other then some value else d.get? other :=
  lookupEntry_insertEntry key other value d.entries

theorem get?_erase (d : Dictionary α) (key other : String) :
    (d.erase key).get? other = if key = other then none else d.get? other :=
  lookupEntry_filter_ne key other d.entries

@[simp] theorem get?_insert_self (d : Dictionary α) (key : String) (value : α) :
    (d.insert key value).get? key = some value := by
  rw [get?_insert, if_pos rfl]

theorem get?_insert_of_ne {key other : String} (d : Dictionary α) (value : α) (h : key ≠ other) :
    (d.insert key value).get? other = d.get? other := by
  rw [get?_insert, if_neg h]

@[simp] theorem get?_erase_self (d : Dictionary α) (key : String) : (d.erase key).get? key = none := by
  rw [get?_erase, if_pos rfl]

theorem get?_erase_of_ne {key other : String} (d : Dictionary α) (h : key ≠ other) :
    (d.erase key).get? other = d.get? other := by
  rw [get?_erase, if_neg h]

end Dictionary
end FeatureScan
