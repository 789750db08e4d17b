import FeatureScan.Proofs.BuiltinTables
import FeatureScan.Proofs.FileEffects
import FeatureScan.Proofs.KeptLists

/-!
Changing bookmarks is all or nothing. Removing writes the list again whatever it finds, so it is the
look before it that keeps a store as it is when there is nothing to remove; adding looks at the
snippet before it looks at the store.
-/

namespace FeatureScan
namespace App

variable {σ α β : Type} {Holds : σ → Dictionary String → Prop} {d d' d'' : Dictionary String}

/-- In a state that holds the map `d` the service answers `r` and leaves one that holds the map
`d'`. -/
def Serves (Holds : σ → Dictionary String → Prop) (x : ExceptT AppFault (StateM σ) α)
    (d : Dictionary String) (r : Except AppFault α) (d' : Dictionary String) : Prop :=
  ∀ st, Holds st d → ∃ st', ends x st = (r, st') ∧ Holds st' d'

theorem serves_pure (a : α) : Serves Holds (pure a) d (.ok a) d :=
  fun st h => ⟨st, rfl, h⟩

theorem serves_throw (fault : AppFault) :
    Serves Holds (throw fault : ExceptT AppFault (StateM σ) α) d (.error fault) d :=
  fun st h => ⟨st, rfl, h⟩

theorem serves_stored {x : ExceptT StoreFault (StateM σ) α} {r : Except StoreFault α}
    (yields : Store.Yields Holds x d r d') : Serves Holds (stored x) d (r.mapError .store) d' := by
  intro st h
  obtain ⟨st', done, h'⟩ := yields st h
  have ended : ends x st = (r, st') := done
  refine ⟨st', ?_, h'⟩
  rw [stored, ends_adapt, ended]

theorem Serves.bind {x : ExceptT AppFault (StateM σ) α} {f : α → ExceptT AppFault (StateM σ) β}
    {a : α} {r : Except AppFault β} (first : Serves Holds x d (.ok a) d')
    (second : Serves Holds (f a) d' r d'') : Serves Holds (x >>= f) d r d'' := by
  intro st h
  obtain ⟨st', hx, h'⟩ := first st h
  obtain ⟨st'', hf, h''⟩ := second st' h'
  refine ⟨st'', ?_, h''⟩
  rw [ends_bind, hx]
  exact hf

/-- In memory the map is all there is. -/
theorem Serves.ends_eq {x : ExceptT AppFault (StateM (Dictionary String)) α} {r : Except AppFault α}
    (serves : Serves Eq x d r d') : ends x d = (r, d') := by
  obtain ⟨st', done, rfl⟩ := serves d rfl
  exact done

/-- The shelf holds these bookmarks now, and nothing else has changed. -/
structure Reshelved (d d' : Dictionary String) (shelf : List Bookmark) : Prop where
  shelf : Kept.stored Bookmark d' = shelf
  others : ∀ key, key ≠ Kept.key Bookmark → d'.get? key = d.get? key

theorem reshelved_put {shelf : List Bookmark} (storable : ∀ b ∈ shelf, b.Storable)
    (d : Dictionary String) : Reshelved d (Kept.put shelf d) shelf where
  shelf := Kept.stored_put storable d
  others _ other := d.get?_insert_of_ne _ other.symm

theorem storable_results (code : String) (dataset : Dataset) :
    (Catalog.builtin.analyze code dataset).Storable :=
  Catalog.storable_analyze (Nat.le_trans Catalog.size_builtin_le (by decide)) code dataset

section

variable {s : Store (StateM σ)} (map : s.GetsAndSets Holds) (dataset : Dataset)
include map

theorem removeBookmark_of_missing {id : String}
    (missing : id ∉ (Kept.stored Bookmark d).map Bookmark.id) :
    Serves Holds ((⟨dataset, s⟩ : App _).removeBookmark id) d
      (.error (.notFound ("bookmark " ++ id))) d := by
  have found := Kept.yields_find? (α := Bookmark) map trivial id d
  have nothing : (Kept.stored Bookmark d).find? (fun b => Kept.id b == id) = none := by
    rw [List.find?_eq_none]
    exact fun b mem same => missing (List.mem_map.mpr ⟨b, mem, beq_iff_eq.mp same⟩)
  rw [nothing] at found
  exact (serves_stored found).bind (serves_throw _)

theorem removeBookmark_of_mem {id : String}
    (listed : id ∈ (Kept.stored Bookmark d).map Bookmark.id) :
    let rest := (Kept.stored Bookmark d).filter fun b => b.id ≠ id
    Serves Holds ((⟨dataset, s⟩ : App _).removeBookmark id) d (.ok rest) (Kept.put rest d) := by
  intro rest
  have found := Kept.yields_find? (α := Bookmark) map trivial id d
  obtain ⟨b, mem, same⟩ := List.mem_map.mp listed
  have some_found : ((Kept.stored Bookmark d).find? fun b => Kept.id b == id).isSome := by
    rw [List.find?_isSome]
    exact ⟨b, mem, beq_iff_eq.mpr same⟩
  obtain ⟨first, first_eq⟩ := Option.isSome_iff_exists.mp some_found
  rw [first_eq] at found
  exact (serves_stored found).bind (serves_stored (Bookmarks.yields_remove map trivial id d))

omit map in
theorem addBookmark_of_blank {code : String} (blank : Text.allBlank code = true) (id : String)
    (time : Instant) (name : String) :
    Serves Holds ((⟨dataset, s⟩ : App _).addBookmark id time name code) d
      (.error (.invalidInput emptyInputMessage)) d := by
  have refused : (⟨dataset, s⟩ : App (StateM σ)).analyze code =
      .error (.invalidInput emptyInputMessage) := by
    rw [analyze, requireCode, if_pos blank]
    rfl
  rw [addBookmark, refused]
  exact serves_throw _

theorem addBookmark_of_code {code : String} (some_code : Text.allBlank code = false) (id : String)
    (time : Instant) (name : String) :
    let b := Bookmark.new id time name code (some (Catalog.builtin.analyze code dataset))
    Serves Holds ((⟨dataset, s⟩ : App _).addBookmark id time name code) d (.ok b)
      (Kept.put (Kept.prepend b (Kept.stored Bookmark d)) d) := by
  intro b
  have analyzed : (⟨dataset, s⟩ : App (StateM σ)).analyze code =
      .ok (Catalog.builtin.analyze code dataset) := by
    rw [analyze, requireCode, if_neg (by simp [some_code])]
    rfl
  rw [addBookmark, analyzed]
  exact (serves_stored (Bookmarks.yields_save map trivial b d)).bind (serves_pure b)

end

/-- Whatever is under the key of the bookmarks, nothing, a list or a text that counts as an empty
list: a service on them fails and leaves the store as it was, or makes its change and no other.
Removing fails if no bookmark has the identifier, adding if there is no code. -/
theorem bookmarks_all_or_nothing {s : Store (StateM σ)} (map : s.GetsAndSets Holds)
    (dataset : Dataset) (d : Dictionary String) (id name code : String) (time : Instant)
    (regular : time.Regular) :
    let app : App (StateM σ) := ⟨dataset, s⟩
    let old := Kept.stored Bookmark d
    let rest := old.filter fun b => b.id ≠ id
    let b := Bookmark.new id time name code (some (Catalog.builtin.analyze code dataset))
    Store.Yields Holds (Bookmarks.list s) d (.ok old) d ∧
      (id ∉ old.map Bookmark.id →
        Serves Holds (app.removeBookmark id) d (.error (.notFound ("bookmark " ++ id))) d) ∧
      (id ∈ old.map Bookmark.id → ∃ d', Reshelved d d' rest ∧
        Serves Holds (app.removeBookmark id) d (.ok rest) d') ∧
      (Text.allBlank code = true →
        Serves Holds (app.addBookmark id time name code) d
          (.error (.invalidInput emptyInputMessage)) d) ∧
      (Text.allBlank code = false → ∃ d', Reshelved d d' (b :: rest) ∧
        Serves Holds (app.addBookmark id time name code) d (.ok b) d') := by
  intro app old rest b
  have kept : ∀ other ∈ rest, other.Storable :=
    fun other mem => Kept.storable_stored d other (List.mem_of_mem_filter mem)
  have results : ∀ a, b.results = some a → a.Storable :=
    fun a same => Option.some.inj same ▸ storable_results code dataset
  have new : b.Storable := ⟨results, regular⟩
  refine ⟨Bookmarks.yields_list map trivial d, removeBookmark_of_missing map dataset,
    fun listed => ?_, fun blank => addBookmark_of_blank dataset blank id time name,
    fun some_code => ?_⟩
  · exact ⟨_, reshelved_put kept d, removeBookmark_of_mem map dataset listed⟩
  · exact ⟨_, reshelved_put (List.forall_mem_cons.mpr ⟨new, kept⟩) d,
      addBookmark_of_code map dataset some_code id time name⟩

/-- A shelf in memory with two bookmarks, and one whose text is no list. -/
theorem changes_of_two_shelves :
    let mark := fun id => Bookmark.new id ⟨0, 0⟩ "name" "code" none
    let kept := Kept.put [mark "a", mark "b"] (Dictionary.empty.insert "draft" "[")
    let corrupt := Dictionary.empty.insert (Kept.key Bookmark) "["
    let app : App (StateM (Dictionary String)) := ⟨.builtin, .memory⟩
    let found := Catalog.builtin.analyze "gap: 1px" .builtin
    let new := Bookmark.new "b" ⟨0, 0⟩ "" "gap: 1px" (some found)
    ends (app.removeBookmark "c") kept = (.error (.notFound "bookmark c"), kept) ∧
      (∃ after, Reshelved kept after [mark "b"] ∧
        ends (app.removeBookmark "a") kept = (.ok [mark "b"], after)) ∧
      ends (app.removeBookmark "a") corrupt = (.error (.notFound "bookmark a"), corrupt) ∧
      ends (app.addBookmark "b" ⟨0, 0⟩ "" " \t") corrupt =
        (.error (.invalidInput emptyInputMessage), corrupt) ∧
      (∃ after, Reshelved corrupt after [new] ∧
        ends (app.addBookmark "b" ⟨0, 0⟩ "" "gap: 1px") corrupt = (.ok new, after)) ∧
      ∃ after, Reshelved kept after [new, mark "a"] ∧
        ends (app.addBookmark "b" ⟨0, 0⟩ "" "gap: 1px") kept = (.ok new, after) := by
  intro mark kept corrupt app found new
  have time : Instant.Regular ⟨0, 0⟩ := by decide
  have storable : ∀ b ∈ [mark "a", mark "b"], b.Storable := by
    intro b mem
    simp only [List.mem_cons, List.not_mem_nil, or_false] at mem
    rcases mem with rfl | rfl
    all_goals exact ⟨nofun, time⟩
  have old : Kept.stored Bookmark kept = [mark "a", mark "b"] := Kept.stored_put storable _
  have none_read : Kept.stored Bookmark corrupt = [] := by decide +kernel
  have all := fun d id code =>
    bookmarks_all_or_nothing Store.memory_implements.getsAndSets .builtin d id "" code ⟨0, 0⟩ time
  obtain ⟨_, kept_missing, _⟩ := all kept "c" ""
  obtain ⟨_, _, kept_removed, _⟩ := all kept "a" ""
  obtain ⟨_, _, _, _, kept_added⟩ := all kept "b" "gap: 1px"
  obtain ⟨_, corrupt_missing, _⟩ := all corrupt "a" ""
  obtain ⟨_, _, _, blank_added, _⟩ := all corrupt "b" " \t"
  obtain ⟨_, _, _, _, corrupt_added⟩ := all corrupt "b" "gap: 1px"
  rw [old] at kept_missing kept_removed kept_added
  rw [none_read] at corrupt_missing corrupt_added
  refine ⟨(kept_missing (by decide)).ends_eq, ?_, (corrupt_missing (by decide)).ends_eq,
    (blank_added (by decide)).ends_eq, ?_, ?_⟩
  · obtain ⟨after, shelved, done⟩ := kept_removed (by decide)
    exact ⟨after, shelved, done.ends_eq⟩
  · obtain ⟨after, shelved, done⟩ := corrupt_added (by decide)
    exact ⟨after, shelved, done.ends_eq⟩
  · obtain ⟨after, shelved, done⟩ := kept_added (by decide)
    exact ⟨after, shelved, done.ends_eq⟩

end App
end FeatureScan
