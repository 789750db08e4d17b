import FeatureScan.Proofs.StoreRuns

/-!
What the shelf of bookmarks holds after any run of the writers of a store. Whether a save
still counts is decided by the steps after it, so the shelf is described from the start of
the run, while each step changes the shelf at the end of what has run so far.
-/

namespace FeatureScan
namespace StoreStep

open Kept (stored)

/-- The identifier under which the step saves or removes a bookmark. -/
def touched? : StoreStep → Option String
  | .saveBookmark b => some b.id
  | .removeBookmark id => some id
  | _ => none

/-- The bookmarks whose identifiers no later step touches, the one saved last in front. -/
def standing : List StoreStep → List Bookmark
  | [] => []
  | .saveBookmark b :: later =>
      if ∃ a ∈ later, a.touched? = some b.id then standing later else standing later ++ [b]
  | _ :: later => standing later

/-- What the step does to the shelf. -/
def onShelf : StoreStep → List Bookmark → List Bookmark
  | .saveBookmark b, shelf => Kept.prepend b shelf
  | .removeBookmark id, shelf => shelf.filter fun b => b.id ≠ id
  | _, shelf => shelf

theorem onShelf_eq_self {a : StoreStep} (untouched : a.touched? = none) (shelf : List Bookmark) :
    a.onShelf shelf = shelf := by
  cases a with
  | saveBookmark | removeBookmark => cases untouched
  | record | clear | set | remove => rfl

/-- The last bookmark of the shelf goes if its identifier is touched, and stays last if not. -/
theorem onShelf_concat (a : StoreStep) (shelf : List Bookmark) (b : Bookmark) :
    a.onShelf (shelf ++ [b]) =
      if a.touched? = some b.id then a.onShelf shelf else a.onShelf shelf ++ [b] := by
  cases a with
  | saveBookmark c =>
      by_cases same : b.id = c.id
      · simp [onShelf, touched?, Kept.prepend, Kept.id, same]
      · simp [onShelf, touched?, Kept.prepend, Kept.id, same, Ne.symm same]
  | removeBookmark id =>
      by_cases same : b.id = id
      · simp [onShelf, touched?, same]
      · simp [onShelf, touched?, same, Ne.symm same]
  | record | clear | set | remove => rfl

theorem standing_concat (steps : List StoreStep) (a : StoreStep) :
    standing (steps ++ [a]) = a.onShelf (standing steps) := by
  induction steps with
  | nil => cases a <;> rfl
  | cons first later ih =>
      cases first with
      | saveBookmark b =>
          rw [List.cons_append, standing, standing, ih]
          by_cases before : ∃ x ∈ later, x.touched? = some b.id
          · obtain ⟨x, mem, touches⟩ := before
            rw [if_pos ⟨x, List.mem_append_left [a] mem, touches⟩, if_pos ⟨x, mem, touches⟩]
          · rw [if_neg before, onShelf_concat]
            congr 1
            simp only [List.mem_append, List.mem_singleton, or_and_right, exists_or,
              exists_eq_left, before, false_or]
      | record | clear | removeBookmark | set | remove => exact ih

theorem mem_standing_cons {b : Bookmark} {a : StoreStep} {later : List StoreStep} :
    b ∈ standing (a :: later) ↔
      (a = .saveBookmark b ∧ ∀ x ∈ later, x.touched? ≠ some b.id) ∨ b ∈ standing later := by
  cases a with
  | saveBookmark c =>
      rw [standing]
      split
      next touched =>
        obtain ⟨x, mem, touches⟩ := touched
        have other : ¬(c = b ∧ ∀ x ∈ later, x.touched? ≠ some b.id) :=
          fun ⟨same, untouched⟩ => untouched x mem (same ▸ touches)
        simp only [saveBookmark.injEq, other, false_or]
      next untouched =>
        have here : ∀ x ∈ later, x.touched? ≠ some c.id :=
          fun x mem touches => untouched ⟨x, mem, touches⟩
        rw [List.mem_append, List.mem_singleton, or_comm]
        refine or_congr_left ⟨?_, fun ⟨same, _⟩ => ?_⟩
        · rintro rfl
          exact ⟨rfl, here⟩
        · cases same
          rfl
  | record | clear | removeBookmark | set | remove => simp [standing]

/-- A bookmark stands if it was saved and no step after that touches its identifier. -/
theorem mem_standing {b : Bookmark} {steps : List StoreStep} :
    b ∈ standing steps ↔ ∃ before later, steps = before ++ .saveBookmark b :: later ∧
      ∀ a ∈ later, a.touched? ≠ some b.id := by
  induction steps with
  | nil => simp [standing]
  | cons first rest ih =>
      rw [mem_standing_cons, ih]
      constructor
      · rintro (⟨rfl, untouched⟩ | ⟨before, later, rfl, untouched⟩)
        · exact ⟨[], rest, rfl, untouched⟩
        · exact ⟨first :: before, later, rfl, untouched⟩
      · rintro ⟨_ | ⟨a, before⟩, later, whole, untouched⟩
        · cases whole
          exact Or.inl ⟨rfl, untouched⟩
        · cases whole
          exact Or.inr ⟨before, later, rfl, untouched⟩

theorem nodup_standing (steps : List StoreStep) : ((standing steps).map Bookmark.id).Nodup := by
  induction steps using List.reverseRecOn with
  | nil => exact List.nodup_nil
  | append_singleton steps a ih =>
      rw [standing_concat]
      cases a with
      | saveBookmark b => exact Kept.nodup_prepend ih
      | removeBookmark id => exact ih.sublist (List.filter_sublist.map Bookmark.id)
      | record | clear | set | remove => exact ih

theorem bookmarks_effect {a : StoreStep} (made : a.SavesMade)
    (avoids : a.Avoids (Kept.key Bookmark)) {d : Dictionary String}
    (written : Kept.Written Bookmark d) :
    Kept.Written Bookmark (a.effect d) ∧
      stored Bookmark (a.effect d) = a.onShelf (stored Bookmark d) := by
  cases a with
  | saveBookmark b =>
      have storable : ∀ kept ∈ Kept.prepend b (stored Bookmark d), kept.Storable :=
        Kept.storable_prepend (Bookmark.Made.storable made) d
      exact ⟨Kept.written_put storable d, Kept.stored_put storable d⟩
  | removeBookmark id =>
      have storable : ∀ kept ∈ (stored Bookmark d).filter fun b => b.id ≠ id, kept.Storable :=
        fun kept mem => Kept.storable_stored d kept (List.mem_of_mem_filter mem)
      exact ⟨Kept.written_put storable d, Kept.stored_put storable d⟩
  | record | clear =>
      have other : Kept.key HistoryItem ≠ Kept.key Bookmark := by decide
      refine keeps_of_target_ne ?_ written
      exact other
  | set | remove =>
      refine keeps_of_target_ne ?_ written
      exact avoids

theorem bookmarks_effects {steps : List StoreStep}
    (allowed : ∀ a ∈ steps, a.SavesMade ∧ a.Avoids (Kept.key Bookmark)) :
    Kept.Written Bookmark (effects steps .empty) ∧
      stored Bookmark (effects steps .empty) = standing steps := by
  refine effects_induction (P := fun steps d => Kept.Written Bookmark d ∧
    stored Bookmark d = standing steps) ⟨Kept.written_empty, rfl⟩ ?_ allowed
  intro steps a d ⟨made, avoids⟩ ⟨written, same⟩
  obtain ⟨written', step⟩ := bookmarks_effect made avoids written
  refine ⟨written', ?_⟩
  rw [step, same, standing_concat]

variable {σ : Type} {s : Store (StateM σ)} {Holds : σ → Dictionary String → Prop}

/-- After any run, and so also before and after any step of it, the shelf holds the
bookmarks that stand, each identifier once and the one saved last in front. One more save
puts its bookmark in front of those with other identifiers, a removal leaves those with
other identifiers, and any other step leaves the shelf as it is. -/
theorem shelf_of_run (map : s.Implements Holds) {st : σ} (start : Holds st .empty)
    {steps : List StoreStep}
    (allowed : ∀ a ∈ steps, a.SavesMade ∧ a.Avoids (Kept.key Bookmark)) :
    let after := runAll s steps st
    let shelf := standing steps
    (Store.run (Bookmarks.list s) after).1 = .ok shelf ∧
      (shelf.map Bookmark.id).Nodup ∧
      (∀ b, b ∈ shelf ↔ ∃ before later, steps = before ++ .saveBookmark b :: later ∧
        ∀ a ∈ later, a.touched? ≠ some b.id) ∧
      (∀ b : Bookmark, b.Made →
        let next := b :: shelf.filter fun other => other.id ≠ b.id
        (Store.run (Bookmarks.save s b) after).1 = .ok next ∧
          (Store.run (Bookmarks.list s) (Store.run (Bookmarks.save s b) after).2).1 = .ok next) ∧
      (∀ id,
        let rest := shelf.filter fun b => b.id ≠ id
        (Store.run (Bookmarks.remove s id) after).1 = .ok rest ∧
          (Store.run (Bookmarks.list s) (Store.run (Bookmarks.remove s id) after).2).1 = .ok rest ∧
          (id ∉ shelf.map Bookmark.id → rest = shelf)) ∧
      ∀ a : StoreStep, a.Avoids (Kept.key Bookmark) → a.touched? = none →
        (Store.run (Bookmarks.list s) (Store.run (a.perform s) after).2).1 = .ok shelf := by
  intro after shelf
  have texts := map.getsAndSets
  have lists := Bookmarks.yields_list texts trivial
  have holds : Holds after (effects steps .empty) := holds_runAll map (fun _ _ => trivial) start
  obtain ⟨written, same⟩ : Kept.Written Bookmark (effects steps .empty) ∧
      stored Bookmark (effects steps .empty) = shelf := bookmarks_effects allowed
  refine ⟨?_, nodup_standing steps, fun _ => mem_standing, ?_, ?_, ?_⟩
  · rw [(lists _).answer holds, same]
  · intro b made next
    have saves := Bookmarks.yields_save texts trivial b (effects steps .empty)
    have kept := (bookmarks_effect (a := .saveBookmark b) made trivial written).2
    change stored Bookmark (Kept.put _ _) = Kept.prepend b _ at kept
    have answer : Kept.prepend b shelf = next := rfl
    rw [saves.answer holds, (lists _).answer (saves.holds holds), kept, same, answer]
    exact ⟨rfl, rfl⟩
  · intro id rest
    have removes := Bookmarks.yields_remove texts trivial id (effects steps .empty)
    have kept := (bookmarks_effect (a := .removeBookmark id) trivial trivial written).2
    change stored Bookmark (Kept.put _ _) = List.filter _ _ at kept
    rw [removes.answer holds, (lists _).answer (removes.holds holds), kept, same]
    refine ⟨rfl, rfl, fun absent => List.filter_eq_self.mpr fun b mem => ?_⟩
    exact decide_eq_true fun named => absent (List.mem_map.mpr ⟨b, mem, named⟩)
  · intro a avoids untouched
    have made : a.SavesMade := by
      cases a with
      | saveBookmark => cases untouched
      | record | clear | removeBookmark | set | remove => trivial
    have kept := (bookmarks_effect made avoids written).2
    rw [(lists _).answer (holds_perform map a trivial holds), kept, same,
      onShelf_eq_self untouched]

/-- A run in memory with an identifier that is saved again, one that is removed, one that is
saved after its removal, and steps of the history and of other keys. -/
theorem shelf_of_mixed_run :
    let a : Analysis := .ofFeatures ([("grid", .baseline)].map fun f => .detected f.1 f.2)
    let mark := fun id name results => Bookmark.new id ⟨0, 0⟩ name "g" results
    let steps : List StoreStep :=
      [.saveBookmark (mark "a" "first" none), .saveBookmark (mark "b" "kept" (some a)),
        .record (.new "a" ⟨0, 0⟩ "g" a), .removeBookmark "a",
        .saveBookmark (mark "c" "replaced" (some a)), .saveBookmark (mark "a" "again" (some a)),
        .clear, .set "draft" "[]", .set "no key" "[]", .saveBookmark (mark "c" "last" none),
        .removeBookmark "d"]
    (∀ a ∈ steps, a.SavesMade ∧ a.Avoids (Kept.key Bookmark)) ∧
      (Store.run (Bookmarks.list .memory) (runAll .memory steps .empty)).1 =
        .ok [mark "c" "last" none, mark "a" "again" (some a), mark "b" "kept" (some a)] := by
  intro a mark steps
  have time : Instant.Regular ⟨0, 0⟩ := by decide
  have computed : a.Made := .ofDetected _ (by decide)
  have made : ∀ id name, (mark id name (some a)).Made :=
    fun id name => ⟨fun _ same => Option.some.inj same ▸ computed, time⟩
  have bare : ∀ id name, (mark id name none).Made := fun id name => ⟨nofun, time⟩
  have allowed : ∀ a ∈ steps, a.SavesMade ∧ a.Avoids (Kept.key Bookmark) := by
    intro a ha
    simp only [steps, List.mem_cons, List.not_mem_nil, or_false] at ha
    rcases ha with rfl | rfl | rfl | rfl | rfl | rfl | rfl | rfl | rfl | rfl | rfl
    all_goals first
      | exact ⟨made _ _, trivial⟩
      | exact ⟨bare _ _, trivial⟩
      | exact ⟨trivial, trivial⟩
      | exact ⟨trivial, by simp [Avoids, Kept.key]⟩
  exact ⟨allowed, (shelf_of_run Store.memory_implements rfl allowed).1⟩

end StoreStep
end FeatureScan
