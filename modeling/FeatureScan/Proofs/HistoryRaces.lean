import FeatureScan.Proofs.KeptLists
import Mathlib.Logic.Function.Basic

/-!
Two clients that record an item each in one store. Nothing keeps one from writing between the look
and the write of the other, and then the item of the one that writes first is lost: the other has
not seen it. Both are told that their item was recorded. What was there before both stays.

The steps are proved once, against clients that share a plain list; schedules are then followed on
the list.
-/

namespace FeatureScan

inductive Client where
  | first
  | second
  deriving Repr, DecidableEq

def Client.other : Client → Client
  | .first => .second
  | .second => .first

/-- How far a client has come with its item. It reads the list, and then writes the list with its
item. -/
inductive Phase where
  | idle
  | holding (items : List HistoryItem)
  | ended (answer : Except StoreFault (List HistoryItem))

/-- What the clients share, and how far each has come. -/
structure Race (σ : Type) where
  shared : σ
  phase : Client → Phase

namespace Race

open Function (update update_self update_apply update_idem)
open History (recorded)

variable {σ : Type}

def start (shared : σ) : Race σ := ⟨shared, fun _ => .idle⟩

/-- The next step of a client. -/
def step (s : Store (StateM σ)) (item : Client → HistoryItem) (race : Race σ) (c : Client) :
    Race σ :=
  match race.phase c with
  | .idle =>
      match Store.run (History.list s) race.shared with
      | (.ok items, st) => ⟨st, update race.phase c (.holding items)⟩
      | (.error fault, st) => ⟨st, update race.phase c (.ended (.error fault))⟩
  | .holding items =>
      let items := recorded (item c) items
      match Store.run (Kept.save s items) race.shared with
      | (.ok _, st) => ⟨st, update race.phase c (.ended (.ok items))⟩
      | (.error fault, st) => ⟨st, update race.phase c (.ended (.error fault))⟩
  | .ended _ => race

/-- The race after steps of the clients in this order. -/
def run (s : Store (StateM σ)) (item : Client → HistoryItem) (schedule : List Client)
    (race : Race σ) : Race σ :=
  schedule.foldl (step s item) race

/-- The two steps of a client, one after the other, are what recording its item does. -/
theorem run_alone (s : Store (StateM σ)) (item : Client → HistoryItem) (c : Client) (st : σ) :
    run s item [c, c] (start st) =
      ⟨(Store.run (History.record s (item c)) st).2,
        update (start st).phase c (.ended (Store.run (History.record s (item c)) st).1)⟩ := by
  have recording : History.record s (item c) = History.list s >>= fun items =>
      Kept.save s (recorded (item c) items) >>= fun _ => pure (recorded (item c) items) := rfl
  rw [recording, Store.run_bind]
  simp only [run, List.foldl_cons, List.foldl_nil]
  cases listed : Store.run (History.list s) st with
  | mk r st' =>
      cases r with
      | error fault => simp [step, start, listed]
      | ok items =>
          have read : step s item (start st) c =
              ⟨st', update (start st).phase c (.holding items)⟩ := by
            simp [step, start, listed]
          rw [read]
          dsimp only
          rw [Store.run_bind]
          cases saved : Store.run (Kept.save s (recorded (item c) items)) st' with
          | mk r st'' =>
              cases r with
              | error fault => simp [step, saved]
              | ok _ =>
                  simp only [step, update_self, saved, update_idem]
                  rfl

/-- The next step of a client that shares a plain list. -/
def listStep (item : Client → HistoryItem) (race : Race (List HistoryItem)) (c : Client) :
    Race (List HistoryItem) :=
  match race.phase c with
  | .idle => ⟨race.shared, update race.phase c (.holding race.shared)⟩
  | .holding items =>
      ⟨recorded (item c) items, update race.phase c (.ended (.ok (recorded (item c) items)))⟩
  | .ended _ => race

/-- The store holds the list, and the clients have come as far with the one as with the other. -/
structure Shows (Holds : σ → Dictionary String → Prop) (race : Race σ)
    (plain : Race (List HistoryItem)) : Prop where
  list : ∃ d, Holds race.shared d ∧ Kept.stored HistoryItem d = plain.shared
  phase : race.phase = plain.phase
  storable : ∀ c items, plain.phase c = .holding items → ∀ e ∈ items, e.Storable

variable {s : Store (StateM σ)} {Holds : σ → Dictionary String → Prop} {item : Client → HistoryItem}
  {race : Race σ} {plain : Race (List HistoryItem)}

theorem shows_step (texts : s.GetsAndSets Holds) (storable : ∀ c, (item c).Storable)
    (shows : Shows Holds race plain) (c : Client) :
    Shows Holds (step s item race c) (listStep item plain c) := by
  obtain ⟨⟨d, holds, stored⟩, phase, held⟩ := shows
  cases stands : plain.phase c with
  | idle =>
      obtain ⟨st', read, holds'⟩ := History.yields_list texts trivial d race.shared holds
      simp only [step, listStep, phase, stands, read]
      refine ⟨⟨d, holds', stored⟩, by rw [stored], fun c' items same e mem => ?_⟩
      simp only [update_apply] at same
      split at same
      · cases same
        rw [← stored] at mem
        exact Kept.storable_stored d e mem
      · exact held c' items same e mem
  | holding items =>
      have kept : ∀ e ∈ recorded (item c) items, e.Storable := by
        intro e mem
        obtain rfl | mem := List.mem_cons.mp (List.mem_of_mem_take mem)
        · exact storable c
        · exact held c items stands e (List.mem_of_mem_filter mem)
      obtain ⟨st', written, holds'⟩ :=
        Kept.yields_save texts trivial (recorded (item c) items) d race.shared holds
      simp only [step, listStep, phase, stands, written]
      refine ⟨⟨_, holds', Kept.stored_put kept d⟩, rfl, fun c' items' same => ?_⟩
      simp only [update_apply] at same
      split at same
      · cases same
      · exact held c' items' same
  | ended answer =>
      simp only [step, listStep, phase, stands]
      exact ⟨⟨d, holds, stored⟩, phase, held⟩

theorem shows_run (texts : s.GetsAndSets Holds) (storable : ∀ c, (item c).Storable)
    (shows : Shows Holds race plain) (schedule : List Client) :
    Shows Holds (run s item schedule race) (schedule.foldl (listStep item) plain) := by
  induction schedule generalizing race plain with
  | nil => exact shows
  | cons c later ih => exact ih (shows_step texts storable shows c)

/-- The client that writes last looks after the other has written, or before that. -/
inductive Order (last : Client) : List Client → Prop
  | apart : Order last [last.other, last.other, last, last]
  | between : Order last [last.other, last, last.other, last]
  | around : Order last [last, last.other, last.other, last]

theorem exists_order {schedule : List Client}
    (twice : schedule.Perm [.first, .first, .second, .second]) : ∃ last, Order last schedule := by
  match schedule, twice.length_eq with
  | [a, b, c, d], _ =>
      cases a <;> cases b <;> cases c <;> cases d
      all_goals first
        | exact absurd twice (by decide)
        | exact ⟨.first, .apart⟩
        | exact ⟨.first, .between⟩
        | exact ⟨.first, .around⟩
        | exact ⟨.second, .apart⟩
        | exact ⟨.second, .between⟩
        | exact ⟨.second, .around⟩

theorem recorded_of_fresh {e : HistoryItem} {items : List HistoryItem}
    (fresh : ∀ other ∈ items, other.id ≠ e.id) (room : items.length < History.limit) :
    recorded e items = e :: items := by
  have kept : items.filter (fun other => Kept.id other ≠ Kept.id e) = items :=
    List.filter_eq_self.mpr fun other mem => decide_eq_true (fresh other mem)
  rw [recorded, Kept.prepend, kept, List.take_of_length_le room]

theorem eq_or_other (c last : Client) : c = last ∨ c = last.other := by
  cases c <;> cases last <;> decide

/-- What is written last is the item of the client that writes it, before what that client has
seen. -/
theorem shared_of_order {last : Client} {schedule : List Client} (order : Order last schedule)
    (old : List HistoryItem) :
    (schedule.foldl (listStep item) (start old)).shared =
      recorded (item last) (if schedule = [last.other, last.other, last, last] then
        recorded (item last.other) old else old) := by
  cases last with
  | first | second =>
      cases order with
      | apart | between | around => rfl

variable (item) in
theorem ended_of_order {last : Client} {schedule : List Client} (order : Order last schedule)
    (old : List HistoryItem) (c : Client) :
    ∃ seen, (schedule.foldl (listStep item) (start old)).phase c =
      .ended (.ok (recorded (item c) seen)) := by
  cases last with
  | first | second =>
      cases order with
      | apart | between | around =>
          cases c with
          | first | second => exact ⟨_, rfl⟩

theorem getLast?_of_order {last : Client} {schedule : List Client} (order : Order last schedule) :
    schedule.getLast? = some last := by
  cases order with
  | apart | between | around => rfl

theorem shows_start {st : σ} {d : Dictionary String} (holds : Holds st d) :
    Shows Holds (start st) (start (Kept.stored HistoryItem d)) :=
  ⟨⟨d, holds, rfl⟩, rfl, nofun⟩

theorem listed_of_order (texts : s.GetsAndSets Holds) (storable : ∀ c, (item c).Storable) {st : σ}
    {d : Dictionary String} (holds : Holds st d) {last : Client} {schedule : List Client}
    (order : Order last schedule) :
    (Store.run (History.list s) (run s item schedule (start st)).shared).1 =
      .ok (recorded (item last) (if schedule = [last.other, last.other, last, last] then
        recorded (item last.other) (Kept.stored HistoryItem d) else Kept.stored HistoryItem d)) := by
  obtain ⟨d', holds', stored⟩ := (shows_run texts storable (shows_start holds) schedule).list
  rw [(History.yields_list texts trivial d').answer holds', stored, shared_of_order order]

/-- In whatever order two clients read and write, the list ends with what was there before, and the
item of the client that writes last is in front of it. The item of the other is there too if that
client has written before this one reads, and only then; but both are answered with a list that has
their item. -/
theorem records_in_any_order (texts : s.GetsAndSets Holds) {st : σ} {d : Dictionary String}
    (holds : Holds st d) (storable : ∀ c, (item c).Storable)
    (distinct : (item .first).id ≠ (item .second).id)
    (fresh : ∀ c, ∀ e ∈ Kept.stored HistoryItem d, e.id ≠ (item c).id)
    (room : (Kept.stored HistoryItem d).length ≤ 48) {schedule : List Client}
    (twice : schedule.Perm [.first, .first, .second, .second]) :
    let old := Kept.stored HistoryItem d
    let after := run s item schedule (start st)
    ∃ last final, schedule.getLast? = some last ∧
      (Store.run (History.list s) after.shared).1 = .ok final ∧
      final = item last :: (if schedule = [last.other, last.other, last, last] then
        item last.other :: old else old) ∧
      old ⊆ final ∧
      ((∀ c, item c ∈ final) ↔ schedule = [last.other, last.other, last, last]) ∧
      ∀ c, ∃ answer, after.phase c = .ended (.ok answer) ∧ item c ∈ answer := by
  intro old after
  obtain ⟨last, order⟩ := exists_order twice
  have apart : (item last.other).id ≠ (item last).id := by
    cases last with
    | first => exact distinct.symm
    | second => exact distinct
  have ended := ended_of_order item order old
  rw [← (shows_run texts storable (shows_start holds) schedule).phase] at ended
  have answered : ∀ c, ∃ answer, after.phase c = .ended (.ok answer) ∧ item c ∈ answer := by
    intro c
    obtain ⟨seen, same⟩ := ended c
    exact ⟨_, same, List.mem_cons_self⟩
  refine ⟨last, _, getLast?_of_order order, listed_of_order texts storable holds order, ?_⟩
  by_cases serial : schedule = [last.other, last.other, last, last]
  · have first := recorded_of_fresh (fresh last.other) (Nat.lt_of_le_of_lt room (by decide))
    have both : recorded (item last) (item last.other :: old) =
        item last :: item last.other :: old :=
      recorded_of_fresh (List.forall_mem_cons.mpr ⟨apart, fresh last⟩)
        (Nat.lt_of_le_of_lt (Nat.succ_le_succ room) (by decide))
    rw [if_pos serial, if_pos serial, first, both]
    refine ⟨rfl, fun e mem => by simp [mem], iff_of_true (fun c => ?_) serial, answered⟩
    obtain rfl | rfl := eq_or_other c last
    · simp
    · simp
  · have one := recorded_of_fresh (fresh last) (Nat.lt_of_le_of_lt room (by decide))
    rw [if_neg serial, if_neg serial, one]
    refine ⟨rfl, List.subset_cons_self _ _, iff_of_false (fun both => ?_) serial, answered⟩
    obtain same | mem := List.mem_cons.mp (both last.other)
    · exact apart (congrArg HistoryItem.id same)
    · exact fresh last.other _ mem rfl

/-- An item of each client, and one from before. -/
def sample : Client → HistoryItem
  | .first => .new "first" ⟨0, 0⟩ "" (.ofFeatures [])
  | .second => .new "second" ⟨0, 0⟩ "" (.ofFeatures [])

def sampleBefore : HistoryItem := .new "before" ⟨0, 0⟩ "" (.ofFeatures [])

theorem storable_sample (c : Client) : (sample c).Storable := by
  cases c with
  | first | second => exact HistoryItem.Made.storable ⟨.ofDetected [] (by decide), by decide⟩

theorem stored_sampleBefore :
    Kept.stored HistoryItem (Kept.put [sampleBefore] .empty) = [sampleBefore] := by
  have storable : sampleBefore.Storable :=
    HistoryItem.Made.storable ⟨.ofDetected [] (by decide), by decide⟩
  exact Kept.stored_put (List.forall_mem_singleton.mpr storable) .empty

/-- Both clients look before either writes, and an item that was recorded is not there. -/
theorem record_lost :
    Kept.stored HistoryItem (Kept.put [sampleBefore] .empty) = [sampleBefore] ∧
      (∀ c, sampleBefore.id ≠ (sample c).id) ∧ (sample .first).id ≠ (sample .second).id ∧
      List.Perm [Client.first, .second, .first, .second] [.first, .first, .second, .second] ∧
      (Store.run (History.list .memory) (run .memory sample [.first, .second, .first, .second]
        (start (Kept.put [sampleBefore] .empty))).shared).1 = .ok [sample .second, sampleBefore] ∧
      sample .first ∉ [sample .second, sampleBefore] := by
  have fresh : ∀ c, sampleBefore.id ≠ (sample c).id := by
    intro c
    cases c <;> decide
  have overlap : ¬ [Client.first, .second, .first, .second] =
      [Client.second.other, Client.second.other, .second, .second] := by decide
  have order : Order .second [.first, .second, .first, .second] := .between
  have listed := listed_of_order Store.memory_implements.getsAndSets storable_sample
    (rfl : Kept.put [sampleBefore] .empty = _) order
  rw [if_neg overlap, stored_sampleBefore,
    recorded_of_fresh (List.forall_mem_singleton.mpr (fresh .second)) (by decide)] at listed
  exact ⟨stored_sampleBefore, fresh, by decide, by decide, listed, by decide⟩

/-- One client after the other. -/
theorem records_apart :
    (Store.run (History.list .memory) (run .memory sample [.first, .first, .second, .second]
      (start (Kept.put [sampleBefore] .empty))).shared).1 =
        .ok [sample .second, sample .first, sampleBefore] := by
  have fresh : ∀ c, ∀ e ∈ Kept.stored HistoryItem (Kept.put [sampleBefore] .empty),
      e.id ≠ (sample c).id := by
    rw [stored_sampleBefore]
    intro c e mem
    rw [List.mem_singleton.mp mem]
    cases c <;> decide
  have room : (Kept.stored HistoryItem (Kept.put [sampleBefore] .empty)).length ≤ 48 := by
    rw [stored_sampleBefore]
    decide
  have twice : List.Perm [Client.first, .first, .second, .second] _ := List.Perm.refl _
  obtain ⟨last, final, ends, listed, whole, _⟩ :=
    records_in_any_order Store.memory_implements.getsAndSets rfl storable_sample (by decide) fresh
      room twice
  have second : last = .second := (Option.some.inj ends).symm
  subst second
  have apart : [Client.first, .first, .second, .second] =
    [Client.second.other, Client.second.other, .second, .second] := rfl
  rw [if_pos apart, stored_sampleBefore] at whole
  rw [listed, whole, Client.other]

end Race
end FeatureScan
