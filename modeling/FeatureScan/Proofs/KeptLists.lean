import FeatureScan.Proofs.ReadEntries
import FeatureScan.Proofs.StoreMap

/-!
Lists of kept entries as parts of the map of a store, and what putting an entry in front
does to them. Cutting a list to a limit before an entry is put in front of it makes no
difference to what is left after the next cut, because no identifier occurs twice. A list
that was written from entries that survive their documents stays readable (`Written`).
-/

namespace FeatureScan
namespace Kept

variable {α : Type} [Kept α]

/-- The entries of a newest-first list that no newer entry of the same identifier replaces. -/
def newest : List α → List α
  | [] => []
  | e :: rest => e :: (newest rest).filter fun other => id other ≠ id e

theorem nodup_prepend {e : α} {entries : List α} (distinct : (entries.map id).Nodup) :
    ((prepend e entries).map id).Nodup := by
  rw [prepend, List.map_cons, List.nodup_cons]
  refine ⟨fun h => ?_, distinct.sublist (List.filter_sublist.map id)⟩
  obtain ⟨other, mem, same⟩ := List.mem_map.mp h
  have differs := of_decide_eq_true (List.mem_filter.mp mem).2
  exact differs same

theorem nodup_newest (entries : List α) : ((newest entries).map id).Nodup := by
  induction entries with
  | nil => exact List.nodup_nil
  | cons e rest ih => exact nodup_prepend ih

/-- At most one entry is filtered out, so cutting first costs nothing. -/
theorem take_filter_take {β : Type} {p : β → Bool} {entries : List β} (k : Nat)
    (one : entries.Pairwise fun a b => p a = true ∨ p b = true) :
    ((entries.take (k + 1)).filter p).take k = (entries.filter p).take k := by
  induction entries generalizing k with
  | nil => rfl
  | cons e rest ih =>
      rw [List.pairwise_cons] at one
      rw [List.take_succ_cons]
      by_cases h : p e = true
      · rw [List.filter_cons_of_pos h, List.filter_cons_of_pos h]
        cases k with
        | zero => rfl
        | succ k => rw [List.take_succ_cons, List.take_succ_cons, ih k one.2]
      · have all : ∀ b ∈ rest, p b = true := fun b hb => (one.1 b hb).resolve_left h
        rw [List.filter_cons_of_neg h, List.filter_cons_of_neg h,
          List.filter_eq_self.mpr fun b hb => all b (List.mem_of_mem_take hb),
          List.filter_eq_self.mpr all, List.take_take, Nat.min_self]

theorem take_prepend_take (e : α) {entries : List α} (n : Nat)
    (distinct : (entries.map id).Nodup) :
    (prepend e (entries.take n)).take n = (prepend e entries).take n := by
  cases n with
  | zero => rfl
  | succ k =>
      have one : entries.Pairwise fun a b =>
          decide (id a ≠ id e) = true ∨ decide (id b ≠ id e) = true := by
        refine (List.pairwise_map.mp distinct).imp fun {a b} (differs : id a ≠ id b) => ?_
        by_cases h : id a = id e
        · exact Or.inr (decide_eq_true fun same => differs (h.trans same.symm))
        · exact Or.inl (decide_eq_true h)
      rw [prepend, prepend, List.take_succ_cons, List.take_succ_cons, take_filter_take k one]

def stored (α : Type) [Kept α] (d : Dictionary String) : List α :=
  ((d.get? (key α)).bind ofDocument?).getD []

def put (entries : List α) (d : Dictionary String) : Dictionary String :=
  d.insert (key α) (toDocument entries).compact

@[simp] theorem stored_erase (d : Dictionary String) : stored α (d.erase (key α)) = [] := by
  rw [stored, Dictionary.get?_erase_self]
  rfl

section Read

variable {σ : Type} {s : Store (StateM σ)} {Holds : σ → Dictionary String → Prop}
  {Keys : String → Prop} (map : s.GetsAndSets Holds Keys) {d : Dictionary String} {key' : String}
  (valid : isKey key' = true) (takes : Keys key')
include map valid takes

theorem yields_getList_none (absent : d.get? key' = none) :
    Store.Yields Holds (getList s key' : ExceptT StoreFault (StateM σ) (Option (List α))) d
      (.ok none) d := by
  refine (map.get d key' valid takes).bind ?_
  rw [absent]
  exact Store.yields_pure none

theorem yields_getList_some {text : String} {entries : List α} (present : d.get? key' = some text)
    (readable : ofDocument? text = some entries) :
    Store.Yields Holds (getList s key') d (.ok (some entries)) d := by
  refine (map.get d key' valid takes).bind ?_
  simp only [present, readable]
  exact Store.yields_pure (some entries)

theorem yields_getList_unreadable {text : String} (present : d.get? key' = some text)
    (unreadable : (ofDocument? text : Option (List α)) = none) :
    Store.Yields Holds (getList s key' : ExceptT StoreFault (StateM σ) (Option (List α))) d
      (.error (.json (documentFault α text))) d := by
  refine (map.get d key' valid takes).bind ?_
  simp only [present, unreadable]
  exact Store.yields_throw _

theorem yields_setList (entries : List α) :
    Store.Yields Holds (setList s key' entries) d (.ok ())
      (d.insert key' (toDocument entries).compact) :=
  map.set d key' _ valid takes

end Read

section Stored

variable [ReadStorable α]

/-- Whatever is under the key of the kind, the list that is read from there could have been
written. -/
theorem storable_stored (d : Dictionary String) : ∀ e ∈ stored α d, LawfulKept.Storable e := by
  intro e mem
  rw [stored] at mem
  cases read : (d.get? (key α)).bind (ofDocument? (α := α)) with
  | none => simp [read] at mem
  | some entries =>
      rw [read, Option.getD_some] at mem
      obtain ⟨text, _, decoded⟩ := Option.bind_eq_some_iff.mp read
      exact storable_of_ofDocument? decoded e mem

theorem storable_prepend {e : α} (storable : LawfulKept.Storable e) (d : Dictionary String) :
    ∀ kept ∈ prepend e (stored α d), LawfulKept.Storable kept := by
  intro kept mem
  rcases List.mem_cons.mp mem with rfl | mem
  · exact storable
  · exact storable_stored d kept (List.mem_of_mem_filter mem)

end Stored

variable [LawfulKept α]

theorem stored_put {entries : List α} (storable : ∀ e ∈ entries, LawfulKept.Storable e)
    (d : Dictionary String) : stored α (put entries d) = entries := by
  rw [stored, put, Dictionary.get?_insert_self, Option.bind_some, ofDocument?_toDocument storable]
  rfl

/-- What is under the key of the kind, if anything, was written from entries that survive it. -/
def Written (α : Type) [Kept α] [LawfulKept α] (d : Dictionary String) : Prop :=
  ∀ text, d.get? (key α) = some text →
    ∃ entries : List α, (∀ e ∈ entries, LawfulKept.Storable e) ∧ text = (toDocument entries).compact

theorem written_empty : Written α .empty := nofun

theorem written_put {entries : List α} (storable : ∀ e ∈ entries, LawfulKept.Storable e)
    (d : Dictionary String) : Written α (put entries d) := by
  intro text present
  rw [put, Dictionary.get?_insert_self] at present
  exact ⟨entries, storable, (Option.some.inj present).symm⟩

theorem written_erase (d : Dictionary String) : Written α (d.erase (key α)) := by
  intro text present
  rw [Dictionary.get?_erase_self] at present
  cases present

theorem Written.congr {d d' : Dictionary String} (written : Written α d)
    (same : d'.get? (key α) = d.get? (key α)) : Written α d' := by
  rwa [Written, same]

theorem Written.ofDocument? {d : Dictionary String} (written : Written α d) {text : String}
    (present : d.get? (key α) = some text) : Kept.ofDocument? text = some (stored α d) := by
  obtain ⟨entries, storable, rfl⟩ := written text present
  have read := ofDocument?_toDocument storable
  rw [stored, present, Option.bind_some, read, Option.getD_some]

variable {σ : Type} {s : Store (StateM σ)} {Holds : σ → Dictionary String → Prop}
  {Keys : String → Prop}

theorem yields_load (map : s.GetsAndSets Holds Keys) (takes : Keys (key α))
    (d : Dictionary String) :
    Store.Yields Holds (load s) d (.ok (stored α d)) d := by
  have valid : isKey (key α) = true := LawfulKept.isKey_key
  unfold load stored
  cases present : d.get? (key α) with
  | none =>
      exact ((yields_getList_none map valid takes present).bind (Store.yields_pure [])).tryCatch_ok _
  | some text =>
      cases readable : (ofDocument? text : Option (List α)) with
      | some entries =>
          refine ((yields_getList_some map valid takes present readable).bind ?_).tryCatch_ok _
          simp only [Option.bind_some, readable]
          exact Store.yields_pure entries
      | none =>
          have refused := (yields_getList_unreadable map valid takes present readable).bind_error
            fun found => (pure (found.getD []) : ExceptT StoreFault (StateM σ) (List α))
          refine refused.tryCatch_error ?_
          simp only [Option.bind_some, readable]
          exact Store.yields_pure []

theorem yields_save (map : s.GetsAndSets Holds Keys) (takes : Keys (key α)) (entries : List α)
    (d : Dictionary String) :
    Store.Yields Holds (save s entries) d (.ok ()) (put entries d) :=
  yields_setList map LawfulKept.isKey_key takes entries

theorem yields_find? (map : s.GetsAndSets Holds Keys) (takes : Keys (key α)) (i : String)
    (d : Dictionary String) :
    Store.Yields Holds (find? s i) d (.ok ((stored α d).find? fun e => id e == i)) d :=
  (yields_load map takes d).bind (Store.yields_pure _)

end Kept

section

variable {σ : Type} {s : Store (StateM σ)} {Holds : σ → Dictionary String → Prop}
  {Keys : String → Prop}

namespace History

theorem yields_list (map : s.GetsAndSets Holds Keys) (takes : Keys (Kept.key HistoryItem))
    (d : Dictionary String) :
    Store.Yields Holds (list s) d (.ok (Kept.stored HistoryItem d)) d :=
  Kept.yields_load map takes d

def recorded (item : HistoryItem) (items : List HistoryItem) : List HistoryItem :=
  (Kept.prepend item items).take limit

theorem yields_record (map : s.GetsAndSets Holds Keys) (takes : Keys (Kept.key HistoryItem))
    (item : HistoryItem) (d : Dictionary String) :
    let items := recorded item (Kept.stored HistoryItem d)
    Store.Yields Holds (record s item) d (.ok items) (Kept.put items d) := by
  intro items
  refine (yields_list map takes d).bind ?_
  exact (Kept.yields_save map takes items d).bind (Store.yields_pure items)

theorem yields_clear (map : s.Implements Holds Keys) (takes : Keys (Kept.key HistoryItem))
    (d : Dictionary String) :
    Store.Yields Holds (clear s) d (.ok ()) (d.erase (Kept.key HistoryItem)) :=
  map.remove d _ LawfulKept.isKey_key takes

end History

namespace Bookmarks

theorem yields_list (map : s.GetsAndSets Holds Keys) (takes : Keys (Kept.key Bookmark))
    (d : Dictionary String) :
    Store.Yields Holds (list s) d (.ok (Kept.stored Bookmark d)) d :=
  Kept.yields_load map takes d

theorem yields_save (map : s.GetsAndSets Holds Keys) (takes : Keys (Kept.key Bookmark))
    (b : Bookmark) (d : Dictionary String) :
    let bookmarks := Kept.prepend b (Kept.stored Bookmark d)
    Store.Yields Holds (save s b) d (.ok bookmarks) (Kept.put bookmarks d) := by
  intro bookmarks
  refine (yields_list map takes d).bind ?_
  exact (Kept.yields_save map takes bookmarks d).bind (Store.yields_pure bookmarks)

theorem yields_remove (map : s.GetsAndSets Holds Keys) (takes : Keys (Kept.key Bookmark))
    (id : String) (d : Dictionary String) :
    let bookmarks := (Kept.stored Bookmark d).filter fun b => b.id ≠ id
    Store.Yields Holds (remove s id) d (.ok bookmarks) (Kept.put bookmarks d) := by
  intro bookmarks
  refine (yields_list map takes d).bind ?_
  exact (Kept.yields_save map takes bookmarks d).bind (Store.yields_pure bookmarks)

end Bookmarks

end
end FeatureScan
