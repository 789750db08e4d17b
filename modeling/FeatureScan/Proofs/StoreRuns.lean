import FeatureScan.Proofs.KeptLists
import Mathlib.Data.List.Induction

/-!
Runs of several writers on one store, in any order: recording and clearing analyses,
saving and removing bookmarks, and setting and removing texts by their keys. A step that
fails changes nothing and the run goes on.
-/

namespace FeatureScan

inductive StoreStep where
  | record (item : HistoryItem)
  | clear
  | saveBookmark (b : Bookmark)
  | removeBookmark (id : String)
  | set (key text : String)
  | remove (key : String)
  deriving Repr, DecidableEq

namespace StoreStep

def perform {m : Type → Type} [Monad m] (s : Store m) : StoreStep → ExceptT StoreFault m Unit
  | .record item => do
      let _ ← History.record s item
      return ()
  | .clear => History.clear s
  | .saveBookmark b => do
      let _ ← Bookmarks.save s b
      return ()
  | .removeBookmark id => do
      let _ ← Bookmarks.remove s id
      return ()
  | .set key text => s.set key text
  | .remove key => s.remove key

/-- What the step does to the map of the store. -/
def effect : StoreStep → Dictionary String → Dictionary String
  | .record item, d => Kept.put (History.recorded item (Kept.stored HistoryItem d)) d
  | .clear, d => d.erase (Kept.key HistoryItem)
  | .saveBookmark b, d => Kept.put (Kept.prepend b (Kept.stored Bookmark d)) d
  | .removeBookmark id, d => Kept.put ((Kept.stored Bookmark d).filter fun b => b.id ≠ id) d
  | .set key text, d => if isKey key then d.insert key text else d
  | .remove key, d => if isKey key then d.erase key else d

/-- Whether the step leaves the text under the key alone when it names its key itself. -/
def Avoids (key : String) : StoreStep → Prop
  | .set key' _ => key' ≠ key
  | .remove key' => key' ≠ key
  | _ => True

/-- What the step records is an outcome of the program. -/
def RecordsMade : StoreStep → Prop
  | .record item => item.Made
  | _ => True

/-- What the step saves holds no outcome or one of the program. -/
def SavesMade : StoreStep → Prop
  | .saveBookmark b => b.Made
  | _ => True

/-- The key whose text the step may change. -/
def target : StoreStep → String
  | .record _ | .clear => Kept.key HistoryItem
  | .saveBookmark _ | .removeBookmark _ => Kept.key Bookmark
  | .set key _ | .remove key => key

theorem get?_effect_of_ne {a : StoreStep} {key : String} (h : a.target ≠ key)
    (d : Dictionary String) : (a.effect d).get? key = d.get? key := by
  cases a with
  | record | saveBookmark | removeBookmark => exact d.get?_insert_of_ne _ h
  | clear => exact d.get?_erase_of_ne h
  | set key' text =>
      rw [effect]
      split
      · exact d.get?_insert_of_ne text h
      · rfl
  | remove key' =>
      rw [effect]
      split
      · exact d.get?_erase_of_ne h
      · rfl

/-- A step leaves the lists of the other kinds. -/
theorem keeps_of_target_ne {α : Type} [Kept α] [LawfulKept α] {a : StoreStep}
    (h : a.target ≠ Kept.key α) {d : Dictionary String} (written : Kept.Written α d) :
    Kept.Written α (a.effect d) ∧ Kept.stored α (a.effect d) = Kept.stored α d := by
  have same : (a.effect d).get? (Kept.key α) = d.get? (Kept.key α) := get?_effect_of_ne h d
  refine ⟨written.congr same, ?_⟩
  rw [Kept.stored, same, Kept.stored]

variable {σ : Type} {s : Store (StateM σ)} {Holds : σ → Dictionary String → Prop}
  {Keys : String → Prop}

theorem yields_perform (map : s.Implements Holds Keys) (a : StoreStep) (takes : Keys a.target)
    (d : Dictionary String) : ∃ r, Store.Yields Holds (a.perform s) d r (a.effect d) := by
  have texts := map.getsAndSets
  cases a with
  | record item =>
      exact ⟨_, (History.yields_record texts takes item d).bind (Store.yields_pure ())⟩
  | clear => exact ⟨_, History.yields_clear map takes d⟩
  | saveBookmark b =>
      exact ⟨_, (Bookmarks.yields_save texts takes b d).bind (Store.yields_pure ())⟩
  | removeBookmark id =>
      exact ⟨_, (Bookmarks.yields_remove texts takes id d).bind (Store.yields_pure ())⟩
  | set key text =>
      by_cases valid : isKey key = true
      · have done : effect (.set key text) d = d.insert key text := if_pos valid
        rw [done]
        exact ⟨_, map.set d key text valid takes⟩
      · have refused : effect (.set key text) d = d := if_neg valid
        rw [refused]
        exact ⟨_, map.set_invalid d key text (Bool.eq_false_iff.mpr valid)⟩
  | remove key =>
      by_cases valid : isKey key = true
      · have done : effect (.remove key) d = d.erase key := if_pos valid
        rw [done]
        exact ⟨_, map.remove d key valid takes⟩
      · have refused : effect (.remove key) d = d := if_neg valid
        rw [refused]
        exact ⟨_, map.remove_invalid d key (Bool.eq_false_iff.mpr valid)⟩

theorem holds_perform (map : s.Implements Holds Keys) (a : StoreStep) (takes : Keys a.target)
    {st : σ} {d : Dictionary String} (h : Holds st d) :
    Holds (Store.run (a.perform s) st).2 (a.effect d) := by
  obtain ⟨r, yields⟩ := yields_perform map a takes d
  exact yields.holds h

/-- The state after the steps, one after the other. -/
def runAll (s : Store (StateM σ)) : List StoreStep → σ → σ
  | [], st => st
  | a :: rest, st => runAll s rest (Store.run (a.perform s) st).2

/-- What the steps do to the map of the store. -/
def effects (steps : List StoreStep) (d : Dictionary String) : Dictionary String :=
  steps.foldl (fun d a => a.effect d) d

theorem effects_concat (steps : List StoreStep) (a : StoreStep) (d : Dictionary String) :
    effects (steps ++ [a]) d = a.effect (effects steps d) := by
  simp [effects]

/-- What holds of the empty map and is kept by each step holds after any run. -/
theorem effects_induction {Allowed : StoreStep → Prop}
    {P : List StoreStep → Dictionary String → Prop} (empty : P [] .empty)
    (step : ∀ steps a d, Allowed a → P steps d → P (steps ++ [a]) (a.effect d))
    {steps : List StoreStep} (allowed : ∀ a ∈ steps, Allowed a) : P steps (effects steps .empty) := by
  induction steps using List.reverseRecOn with
  | nil => exact empty
  | append_singleton steps a ih =>
      have before : ∀ b ∈ steps, Allowed b := fun b hb => allowed b (List.mem_append_left [a] hb)
      rw [effects_concat]
      exact step steps a _ (allowed a (by simp)) (ih before)

theorem holds_runAll (map : s.Implements Holds Keys) {steps : List StoreStep}
    (takes : ∀ a ∈ steps, Keys a.target) {st : σ} {d : Dictionary String} (h : Holds st d) :
    Holds (runAll s steps st) (effects steps d) := by
  induction steps generalizing st d with
  | nil => exact h
  | cons a rest ih =>
      obtain ⟨first, later⟩ := List.forall_mem_cons.mp takes
      exact ih later (holds_perform map a first h)

end StoreStep
end FeatureScan
