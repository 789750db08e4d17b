import FeatureScan.Query
import FeatureScan.Proofs.AnalysisCheck
import Mathlib.Algebra.Order.Floor.Div

/-!
The pages of a listing. They are consecutive pieces of the accepted features, so together they
show each of them once. The number of items that are passed over has an upper limit, but a list
that is longer than the limit does not exist.
-/

namespace FeatureScan

/-- Whether one feature stands before another one in a listing. -/
def SortKey.Before : SortKey → Feature → Feature → Prop
  | .status => Feature.Precedes
  | .feature => fun f g => f.id < g.id

theorem SortKey.Before.asymm {key : SortKey} {f g : Feature} (h : key.Before f g) :
    ¬ key.Before g f := by
  cases key with
  | status => exact Feature.Precedes.asymm h
  | feature => exact String.lt_asymm h

namespace Query

/-- What a listing shows, page by page: the accepted features in strict order. -/
structure Lists (q : Query) (a : Analysis) (listed : List Feature) : Prop where
  accepted : listed.Perm (a.features.filter q.accepts)
  ordered : listed.Pairwise q.sort.Before

def withPage (q : Query) (n : Nat) : Query := { q with page := n }

def sortedBy (q : Query) (key : SortKey) : Query := { q with sort := key }

/-- Page 0 and pages for no items count as 1. -/
def fromOne (q : Query) : Query := { q with page := max q.page 1, perPage := max q.perPage 1 }

def pageSize (q : Query) : Nat := max q.perPage 1

/-- The items of all pages in turn. -/
def allItems (q : Query) (a : Analysis) : List Feature :=
  (List.range' 1 (q.run a).totalPages).flatMap fun n => ((q.withPage n).run a).items

variable {q : Query} {a : Analysis}

theorem Lists.unique {listed listed' : List Feature} (h : q.Lists a listed)
    (h' : q.Lists a listed') : listed = listed' :=
  (h.accepted.trans h'.accepted.symm).eq_of_pairwise
    (fun _ _ _ _ before after => absurd after before.asymm) h.ordered h'.ordered

theorem matching_perm (q : Query) (a : Analysis) :
    (q.matching a).Perm (a.features.filter q.accepts) := by
  unfold matching
  cases q.sort with
  | status => exact List.Perm.refl _
  | feature => exact List.mergeSort_perm _ _

theorem length_matching_le (q : Query) (a : Analysis) :
    (q.matching a).length ≤ a.features.length :=
  (matching_perm q a).length_eq ▸ List.length_filter_le q.accepts a.features

/-- Whether `f` may stand before `g` in a listing by identifiers. -/
def idNotAfter (f g : Feature) : Bool := decide (f.id ≤ g.id)

theorem idNotAfter_trans (f g h : Feature) (hfg : idNotAfter f g = true)
    (hgh : idNotAfter g h = true) : idNotAfter f h = true :=
  decide_eq_true (String.le_trans (of_decide_eq_true hfg) (of_decide_eq_true hgh))

theorem idNotAfter_total (f g : Feature) : (idNotAfter f g || idNotAfter g f) = true := by
  simpa [idNotAfter] using String.le_total f.id g.id

theorem mergeSort_id_pairwise {features : List Feature}
    (distinct : (features.map Feature.id).Nodup) :
    (features.mergeSort idNotAfter).Pairwise fun f g => f.id < g.id :=
  Feature.mergeSort_pairwise idNotAfter_trans idNotAfter_total
    (fun _ _ le apart => Std.lt_of_le_of_ne (of_decide_eq_true le) apart) distinct

/-- The features of an outcome stand in the order of reports already, and only the other order
takes sorting. -/
theorem matching_lists (sound : a.Sound) : q.Lists a (q.matching a) := by
  have kept : (a.features.filter q.accepts).Sublist a.features := List.filter_sublist
  refine ⟨matching_perm q a, ?_⟩
  unfold matching
  cases q.sort with
  | status => exact sound.ordered.sublist kept
  | feature => exact mergeSort_id_pairwise (sound.distinct.sublist (kept.map Feature.id))

theorem lists_iff (sound : a.Sound) {listed : List Feature} :
    q.Lists a listed ↔ listed = q.matching a :=
  ⟨fun h => h.unique (matching_lists sound), fun h => h ▸ matching_lists sound⟩

theorem flatMap_pages {α : Type} (l : List α) (size count : Nat) :
    ((List.range' 1 count).flatMap fun n => (l.drop ((n - 1) * size)).take size) =
      l.take (count * size) := by
  induction count with
  | zero => simp
  | succ count ih =>
      rw [List.range'_1_concat, List.flatMap_append, ih, List.flatMap_singleton,
        Nat.add_sub_cancel_left, Nat.succ_mul, List.take_add]

theorem pageSize_pos (q : Query) : 0 < q.pageSize := Nat.le_max_right q.perPage 1

theorem totalPages_eq (q : Query) (a : Analysis) :
    (q.run a).totalPages = (q.matching a).length ⌈/⌉ q.pageSize :=
  (Nat.ceilDiv_eq_add_pred_div _ _).symm

theorem totalPages_le_iff {n : Nat} :
    (q.run a).totalPages ≤ n ↔ (q.matching a).length ≤ n * q.pageSize := by
  rw [totalPages_eq, ceilDiv_le_iff_le_mul q.pageSize_pos, Nat.mul_comm]

/-- What is passed over is limited only where nothing is left in any case. -/
theorem items_eq (countable : a.features.length ≤ greatestSkip) (n : Nat) :
    ((q.withPage n).run a).items =
      ((q.matching a).drop ((max n 1 - 1) * q.pageSize)).take q.pageSize := by
  change ((q.matching a).drop (min ((max n 1 - 1) * q.pageSize) greatestSkip)).take q.pageSize = _
  rcases Nat.le_total ((max n 1 - 1) * q.pageSize) greatestSkip with within | beyond
  · rw [Nat.min_eq_left within]
  · have none : (q.matching a).length ≤ greatestSkip :=
      Nat.le_trans (length_matching_le q a) countable
    rw [Nat.min_eq_right beyond, List.drop_of_length_le none,
      List.drop_of_length_le (Nat.le_trans none beyond)]

theorem allItems_eq (countable : a.features.length ≤ greatestSkip) :
    q.allItems a = q.matching a := by
  have pages : q.allItems a = (List.range' 1 (q.run a).totalPages).flatMap fun n =>
      ((q.matching a).drop ((n - 1) * q.pageSize)).take q.pageSize := by
    refine List.flatMap_congr fun n hn => ?_
    have first : max n 1 = n := Nat.max_eq_left (List.mem_range'_1.mp hn).1
    rw [items_eq countable, first]
  rw [pages, flatMap_pages, List.take_of_length_le]
  exact totalPages_le_iff.mp (Nat.le_refl _)

theorem length_items_of_lt (countable : a.features.length ≤ greatestSkip) {n : Nat}
    (before : max n 1 < (q.run a).totalPages) :
    ((q.withPage n).run a).items.length = q.pageSize := by
  have more : max n 1 * q.pageSize < (q.matching a).length :=
    Nat.lt_of_not_le fun enough => Nat.not_le_of_lt before (totalPages_le_iff.mpr enough)
  have split : max n 1 * q.pageSize = (max n 1 - 1) * q.pageSize + q.pageSize := by
    rw [← Nat.succ_mul, Nat.succ_eq_add_one, Nat.sub_add_cancel (Nat.le_max_right n 1)]
  rw [items_eq countable, List.length_take, List.length_drop]
  omega

theorem items_of_beyond (countable : a.features.length ≤ greatestSkip) {n : Nat}
    (beyond : (q.run a).totalPages < max n 1) : ((q.withPage n).run a).items = [] := by
  have none : (q.matching a).length ≤ (max n 1 - 1) * q.pageSize :=
    totalPages_le_iff.mp (Nat.le_sub_one_of_lt beyond)
  rw [items_eq countable, List.drop_of_length_le none, List.take_nil]

theorem run_fromOne (q : Query) (a : Analysis) : q.fromOne.run a = q.run a := by
  have page : max (max q.page 1) 1 = max q.page 1 := Nat.max_eq_left (Nat.le_max_right q.page 1)
  have size : max (max q.perPage 1) 1 = max q.perPage 1 :=
    Nat.max_eq_left (Nat.le_max_right q.perPage 1)
  simp only [run, fromOne, page, size]
  rfl

/-- The pages of a listing neither lose nor repeat a feature. There is one list of the accepted
features in strict order; the pages cut it into pieces of one size, the last one excepted, and
behind them all is nothing, however great the number of the page is. The order that was asked
for does not change what is listed. The length of a list of the program has 64 bits. -/
theorem pages_partition_matches (q : Query) {a : Analysis} (sound : a.Sound)
    (countable : a.features.length ≤ greatestSkip) :
    ∃ listed, (∀ other, q.Lists a other ↔ other = listed) ∧
      (q.run a).totalMatches = listed.length ∧
      (q.run a).totalPages = listed.length ⌈/⌉ max q.perPage 1 ∧
      q.allItems a = listed ∧
      (∀ n, max n 1 < (q.run a).totalPages →
        ((q.withPage n).run a).items.length = max q.perPage 1) ∧
      (∀ n, (q.run a).totalPages < max n 1 → ((q.withPage n).run a).items = []) ∧
      q.run a = q.fromOne.run a ∧
      ∀ key, ((q.sortedBy key).allItems a).Perm listed := by
  refine ⟨q.matching a, fun _ => lists_iff sound, rfl, totalPages_eq q a, allItems_eq countable,
    fun n => length_items_of_lt countable, fun n => items_of_beyond countable,
    (run_fromOne q a).symm, fun key => ?_⟩
  rw [allItems_eq countable]
  exact (matching_perm _ a).trans (matching_perm q a).symm

/-- Three of five features on pages for two, seen from the last page that there is a number
for. -/
theorem pages_of_three_matches :
    let script : Feature := ⟨"es-modules", .baseline, true⟩
    let fetch : Feature := ⟨"fetch", .baseline, true⟩
    let details : Feature := ⟨"Details", .needsFallback, true⟩
    let a : Analysis := ⟨.mixed,
      [script, fetch, details, ⟨"dialog", .unknown, true⟩, ⟨"grid", .unknown, true⟩],
      ⟨5, 2, 1, 2⟩⟩
    let q : Query := ⟨none, some "E", .feature, greatestSkip, 2⟩
    a.Sound ∧ a.features.length ≤ greatestSkip ∧ q.Lists a [details, script, fetch] ∧
      q.allItems a = [details, script, fetch] ∧ (q.run a).totalPages = 2 ∧
      ((q.withPage 1).run a).items.length = 2 ∧ (q.run a).items = [] ∧
      ((q.sortedBy .status).allItems a).Perm [details, script, fetch] := by
  intro script fetch details a q
  have sound : a.Sound := (Analysis.check_eq_ok.mp (by decide : a.check = .ok a)).2.1
  have countable : a.features.length ≤ greatestSkip := by decide
  have accepted : a.features.filter q.accepts = [script, fetch, details] := by decide
  have lists : q.Lists a [details, script, fetch] := by
    refine ⟨?_, ?_⟩
    · rw [accepted]
      exact (List.perm_append_comm : ([details] ++ [script, fetch]).Perm _)
    · exact (by decide : [details, script, fetch].Pairwise fun f g => f.id < g.id)
  obtain ⟨listed, unique, _, pages, all, full, none, _, others⟩ :=
    pages_partition_matches q sound countable
  cases (unique _).mp lists
  have two : (q.run a).totalPages = 2 := pages.trans (Nat.ceilDiv_eq_add_pred_div 3 2)
  refine ⟨sound, countable, lists, all, two, full 1 ?_, none greatestSkip ?_, others .status⟩
  · rw [two]
    decide
  · rw [two]
    decide

end Query
end FeatureScan
