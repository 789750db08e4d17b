import FeatureScan.Query
import FeatureScan.Proofs.AnalysisCheck
import FeatureScan.Proofs.Pages
import FeatureScan.Proofs.Text.LowerCase
import FeatureScan.Proofs.Text.Pieces

/-!
Searching for a text that occurs in an identifier. The text and the identifier are put into lower
case each for itself, so the form of a capital sigma may differ between them. No other character
can hide an occurrence.
-/

namespace FeatureScan

namespace Text

/-- The text is a part of the other one, up to the case of letters of ASCII. -/
def OccursIn (text hay : String) : Prop :=
  text.toList.map Char.toLower <:+: hay.toList.map Char.toLower

theorem toList_lower (s : String) : (lower s).toList = lowerAfter [] s.toList :=
  String.toList_ofList

end Text

namespace Query

open Text (OccursIn settledAfter lowerAfter)

variable {q : Query} {text : String}

/-- Without a filter by status only the search decides. The empty text is found everywhere, as if
nothing were searched for. -/
theorem accepts_iff_of_search (any_support : q.support = none) (search : q.search = some text)
    {f : Feature} :
    q.accepts f = true ↔ lowerAfter [] text.toList <:+: lowerAfter [] f.id.toList := by
  rw [accepts, any_support, needle, search, Option.all_none, Bool.true_and, Option.filter_some]
  by_cases empty : text = ""
  · rw [empty]
    exact ⟨fun _ => List.nil_infix, fun _ => rfl⟩
  · rw [if_pos (decide_eq_true empty), Option.map_some, Option.all_some, Text.occursIn_iff,
      Text.toList_lower, Text.toList_lower]

theorem mem_matching {a : Analysis} {f : Feature} :
    f ∈ q.matching a ↔ f ∈ a.features ∧ q.accepts f = true := by
  rw [(matching_perm q a).mem_iff, List.mem_filter]

theorem finds_of_settled (settled : settledAfter [] text.toList = true)
    (any_support : q.support = none) (search : q.search = some text) {a : Analysis} {f : Feature}
    (mem : f ∈ a.features) (occurs : OccursIn text f.id) : f ∈ q.matching a :=
  mem_matching.mpr ⟨mem, (accepts_iff_of_search any_support search).mpr
    (Text.lowerAfter_infix_of_map_infix settled occurs)⟩

theorem exists_missed_of_unsettled (unsettled : settledAfter [] text.toList = false) :
    ∃ (a : Analysis) (f : Feature), a.Sound ∧ f ∈ a.features ∧ OccursIn text f.id ∧
      ∀ q : Query, q.support = none → q.search = some text → f ∉ q.matching a := by
  obtain ⟨earlier, after, apart⟩ := Text.exists_not_infix_of_unsettled unsettled
  let f : Feature := ⟨String.ofList (earlier ++ text.toList ++ after), .baseline, true⟩
  have id : f.id.toList = earlier ++ text.toList ++ after := String.toList_ofList
  refine ⟨.ofSorted [f], f, Analysis.sound_single f, List.mem_singleton_self f, ?_, ?_⟩
  · rw [OccursIn, id]
    exact List.IsInfix.map Char.toLower ⟨earlier, after, rfl⟩
  · intro q any_support search found
    have within := (accepts_iff_of_search any_support search).mp (mem_matching.mp found).2
    rw [id] at within
    exact apart within

/-- A search misses no feature whose identifier contains the text of the search, up to the case of
letters of ASCII, exactly if the form of each capital sigma of the text is settled within the
text. -/
theorem finds_occurrences_iff_settled (text : String) :
    (∀ (q : Query) (a : Analysis), a.Sound → q.support = none → q.search = some text →
      ∀ f ∈ a.features, OccursIn text f.id → f ∈ q.matching a) ↔
    settledAfter [] text.toList = true := by
  constructor
  · intro finds
    by_contra unsettled
    obtain ⟨a, f, sound, mem, occurs, missed⟩ :=
      exists_missed_of_unsettled (Bool.eq_false_iff.mpr unsettled)
    let q : Query := { all with search := some text }
    exact missed q rfl rfl (finds q a sound rfl rfl f mem occurs)
  · intro settled q a _ any_support search f mem occurs
    exact finds_of_settled settled any_support search mem occurs

example : settledAfter [] "ΟΔΥΣΣΕΥΣ 2".toList = true := by decide +kernel

/-- The last sigma of the search is a final one, and that of the identifier is not. -/
theorem identifier_missed_by_prefix :
    let f : Feature := ⟨"ΑΣΑ", .baseline, true⟩
    let a : Analysis := .ofSorted [f]
    let q : Query := { all with search := some "ΑΣ" }
    a.Sound ∧ f ∈ a.features ∧ q.support = none ∧ "ΑΣ".toList <:+: f.id.toList ∧
      q.matching a = [] := by
  intro f a q
  have occurs : "ΑΣ".toList <:+: f.id.toList := by decide +kernel
  have none : q.matching a = [] := by decide +kernel
  exact ⟨Analysis.sound_single f, List.mem_singleton_self f, rfl, occurs, none⟩

end Query
end FeatureScan
