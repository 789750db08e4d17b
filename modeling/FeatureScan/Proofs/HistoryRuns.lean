import FeatureScan.Proofs.StoreRuns

/-!
What the history holds after any run of the writers of a store. The list is cut at every
record; that an item beyond the limit never has to come back is what lets the cut be made
once, at the end.
-/

namespace FeatureScan
namespace StoreStep

open Kept (newest stored)

/-- The item is an analysis by some catalog, at a time that the calendar knows. The
signatures of the catalog can be counted. -/
def Analyzed (item : HistoryItem) : Prop :=
  (∃ (c : Catalog) (text : String) (d : Dataset),
    c.size ≤ Json.greatestWhole ∧ item.results = c.analyze text d) ∧
    item.time.Regular

def RecordsAnalyses : StoreStep → Prop
  | .record item => Analyzed item
  | _ => True

def isClear : StoreStep → Bool
  | .clear => true
  | _ => false

def recorded? : StoreStep → Option HistoryItem
  | .record item => some item
  | _ => none

/-- The items recorded since the last time that the history was cleared, newest first. -/
def sinceClear (steps : List StoreStep) : List HistoryItem :=
  (steps.reverse.takeWhile fun a => !a.isClear).filterMap recorded?

/-- What the step does to a list of items that is never cut. -/
def onRecorded : StoreStep → List HistoryItem → List HistoryItem
  | .record item, items => item :: items
  | .clear, _ => []
  | _, items => items

def onHistory : StoreStep → List HistoryItem → List HistoryItem
  | .record item, items => History.recorded item items
  | .clear, _ => []
  | _, items => items

theorem sinceClear_concat (steps : List StoreStep) (a : StoreStep) :
    sinceClear (steps ++ [a]) = a.onRecorded (sinceClear steps) := by
  unfold sinceClear
  rw [List.reverse_append]
  cases a <;> simp [isClear, recorded?, onRecorded, List.filterMap_cons]

theorem Analyzed.made {item : HistoryItem} (h : Analyzed item) : item.Made := by
  obtain ⟨⟨c, text, d, countable, same⟩, time⟩ := h
  refine ⟨?_, time⟩
  rw [same]
  exact .analyze c text d countable

theorem RecordsAnalyses.made {a : StoreStep} (h : a.RecordsAnalyses) : a.RecordsMade := by
  cases a with
  | record item => exact Analyzed.made h
  | clear | saveBookmark | removeBookmark | set | remove => trivial

theorem items_effect {a : StoreStep} (made : a.RecordsMade)
    (avoids : a.Avoids (Kept.key HistoryItem)) {d : Dictionary String}
    (written : Kept.Written HistoryItem d) :
    Kept.Written HistoryItem (a.effect d) ∧
      stored HistoryItem (a.effect d) = a.onHistory (stored HistoryItem d) := by
  cases a with
  | record item =>
      have storable : ∀ kept ∈ History.recorded item (stored HistoryItem d), kept.Storable :=
        fun kept mem => Kept.storable_prepend (HistoryItem.Made.storable made) d kept
          (List.mem_of_mem_take mem)
      exact ⟨Kept.written_put storable d, Kept.stored_put storable d⟩
  | clear => exact ⟨Kept.written_erase d, Kept.stored_erase d⟩
  | saveBookmark | removeBookmark =>
      have other : Kept.key Bookmark ≠ Kept.key HistoryItem := by decide
      refine keeps_of_target_ne ?_ written
      exact other
  | set | remove =>
      refine keeps_of_target_ne ?_ written
      exact avoids

theorem onHistory_eq_self {a : StoreStep} (records : a.recorded? = none) (clears : a.isClear = false)
    (items : List HistoryItem) : a.onHistory items = items := by
  cases a with
  | record => cases records
  | clear => cases clears
  | saveBookmark | removeBookmark | set | remove => rfl

theorem recordsMade_of_none {a : StoreStep} (records : a.recorded? = none) : a.RecordsMade := by
  cases a with
  | record => cases records
  | clear | saveBookmark | removeBookmark | set | remove => trivial

/-- A step on the cut list leaves what is left of the uncut one. -/
theorem onHistory_take (a : StoreStep) (items : List HistoryItem) :
    a.onHistory ((newest items).take History.limit) =
      (newest (a.onRecorded items)).take History.limit := by
  cases a with
  | record item => exact Kept.take_prepend_take item History.limit (Kept.nodup_newest items)
  | clear | saveBookmark | removeBookmark | set | remove => rfl

theorem items_effects {steps : List StoreStep}
    (allowed : ∀ a ∈ steps, a.RecordsMade ∧ a.Avoids (Kept.key HistoryItem)) :
    Kept.Written HistoryItem (effects steps .empty) ∧
      stored HistoryItem (effects steps .empty) =
        (newest (sinceClear steps)).take History.limit := by
  refine effects_induction (P := fun steps d => Kept.Written HistoryItem d ∧
    stored HistoryItem d = (newest (sinceClear steps)).take History.limit)
    ⟨Kept.written_empty, rfl⟩ ?_ allowed
  intro steps a d ⟨made, avoids⟩ ⟨written, same⟩
  obtain ⟨written', step⟩ := items_effect made avoids written
  refine ⟨written', ?_⟩
  rw [step, same, onHistory_take, sinceClear_concat]

variable {σ : Type} {s : Store (StateM σ)} {Holds : σ → Dictionary String → Prop}

/-- After any run, and so also before and after any step of it, the history consists of the
first items of those recorded since the last clear, without the replaced ones. Its length
and its identifiers follow; so does what one more record answers and leaves; and a step
that neither records nor clears leaves the list as it is. -/
theorem history_of_run (map : s.Implements Holds) {st : σ} (start : Holds st .empty)
    {steps : List StoreStep}
    (allowed : ∀ a ∈ steps, a.RecordsAnalyses ∧ a.Avoids (Kept.key HistoryItem)) :
    let after := runAll s steps st
    let items := (newest (sinceClear steps)).take 50
    (Store.run (History.list s) after).1 = .ok items ∧
      items.length ≤ 50 ∧ (items.map HistoryItem.id).Nodup ∧
      (∀ item, Analyzed item →
        let next := item :: (items.filter fun other => other.id ≠ item.id).take 49
        (Store.run (History.record s item) after).1 = .ok next ∧
          (Store.run (History.list s) (Store.run (History.record s item) after).2).1 = .ok next) ∧
      ∀ a : StoreStep, a.Avoids (Kept.key HistoryItem) → a.recorded? = none → a.isClear = false →
        (Store.run (History.list s) (Store.run (a.perform s) after).2).1 = .ok items := by
  intro after items
  have texts := map.getsAndSets
  have lists := History.yields_list texts trivial
  have holds : Holds after (effects steps .empty) := holds_runAll map (fun _ _ => trivial) start
  have made : ∀ a ∈ steps, a.RecordsMade ∧ a.Avoids (Kept.key HistoryItem) :=
    fun a ha => ⟨(allowed a ha).1.made, (allowed a ha).2⟩
  obtain ⟨written, same⟩ : Kept.Written HistoryItem (effects steps .empty) ∧
      stored HistoryItem (effects steps .empty) = items := items_effects made
  refine ⟨?_, ?_, ?_, ?_, ?_⟩
  · rw [(lists _).answer holds, same]
  · exact List.length_take_le 50 _
  · exact (Kept.nodup_newest _).sublist ((List.take_sublist 50 _).map _)
  · intro item analyzed next
    have records := History.yields_record texts trivial item (effects steps .empty)
    have kept := (items_effect (a := .record item) analyzed.made trivial written).2
    have answer : History.recorded item items = next := List.take_succ_cons
    change stored HistoryItem (Kept.put _ _) = History.recorded item _ at kept
    rw [records.answer holds, (lists _).answer (records.holds holds), kept, same, answer]
    exact ⟨rfl, rfl⟩
  · intro a avoids records clears
    have kept := (items_effect (recordsMade_of_none records) avoids written).2
    rw [(lists _).answer (holds_perform map a trivial holds), kept, same,
      onHistory_eq_self records clears]

/-- A run in memory with an item from before the last clear, an item that is recorded
again, a bookmark and texts under other keys. -/
theorem history_of_mixed_run :
    let c : Catalog := Catalog.empty.register ⟨"grid", .css, [.anywhere (.word ['g'])]⟩
    let item := fun id code => HistoryItem.new id ⟨0, 0⟩ code (c.analyze code .empty)
    let steps : List StoreStep :=
      [.record (item "a" "g"), .clear, .record (item "b" "g"),
        .saveBookmark (.new "b" ⟨0, 0⟩ "name" "g" none), .record (item "c" "G"),
        .set "draft" "[]", .set "no key" "[]", .record (item "b" "gap"), .removeBookmark "c"]
    (∀ a ∈ steps, a.RecordsAnalyses ∧ a.Avoids (Kept.key HistoryItem)) ∧
      (Store.run (History.list .memory) (runAll .memory steps .empty)).1 =
        .ok [item "b" "gap", item "c" "G"] := by
  intro c item steps
  have time : Instant.Regular ⟨0, 0⟩ := by decide
  have analyzed : ∀ id code, Analyzed (item id code) :=
    fun id code => ⟨⟨c, code, .empty, by decide, rfl⟩, time⟩
  have allowed : ∀ a ∈ steps, a.RecordsAnalyses ∧ a.Avoids (Kept.key HistoryItem) := by
    intro a ha
    simp only [steps, List.mem_cons, List.not_mem_nil, or_false] at ha
    rcases ha with rfl | rfl | rfl | rfl | rfl | rfl | rfl | rfl | rfl
    all_goals first
      | exact ⟨analyzed _ _, trivial⟩
      | exact ⟨trivial, trivial⟩
      | exact ⟨trivial, by simp [Avoids, Kept.key]⟩
  exact ⟨allowed, (history_of_run Store.memory_implements rfl allowed).1⟩

end StoreStep
end FeatureScan
