import FeatureScan.Report
import FeatureScan.Proofs.AnalysisCheck
import FeatureScan.Proofs.InstantText
import FeatureScan.Proofs.ReportRoundTrip
import FeatureScan.Proofs.Text.Lines

/-!
The lines of the reports. The groups of an outcome, one after the other, are its features in
order, so a report that goes through the groups goes through the whole outcome. A report is
written line by line, and no part of a line holds a line feed except, if at all, an identifier.
-/

namespace FeatureScan

open Text (OneLine lines lines_join oneLine_append oneLine_ofList oneLine_repr)

namespace Feature

/-- No status before that of the first feature comes later on. -/
theorem filter_support_of_earlier {f : Feature} {rest : List Feature} {s : Support}
    (first : ∀ g ∈ rest, f.Precedes g) (earlier : s.priority < f.support.priority) :
    (rest.filter fun g => g.support = s) = [] := by
  refine List.filter_eq_nil_iff.mpr fun g mem same => ?_
  have same : g.support = s := of_decide_eq_true same
  cases first g mem with
  | inl before => exact Nat.lt_asymm earlier (same ▸ before)
  | inr tie => exact Nat.lt_irrefl _ (same ▸ tie.1 ▸ earlier)

theorem flatMap_filter_support {features : List Feature} (ordered : features.Pairwise Precedes) :
    (Support.all.flatMap fun s => features.filter fun f => f.support = s) = features := by
  induction ordered with
  | nil => rfl
  | @cons f rest first _ ih =>
      simp only [Support.all, List.flatMap_cons, List.flatMap_nil] at ih ⊢
      have none_before := fun s => filter_support_of_earlier (s := s) first
      cases status : f.support with
      | baseline => simpa [status] using ih
      | needsFallback =>
          have left := none_before .baseline (by simp [status, Support.priority])
          simpa [status, left] using ih
      | unknown =>
          have left := none_before .baseline (by simp [status, Support.priority])
          have middle := none_before .needsFallback (by simp [status, Support.priority])
          simpa [status, left, middle] using ih

end Feature

namespace Analysis

theorem mem_groups {a : Analysis} {g : Support × List Feature} (mem : g ∈ a.groups) :
    g.2 = a.features.filter (·.support = g.1) := by
  obtain ⟨s, _, rfl⟩ := List.mem_map.mp mem
  rfl

theorem groups_flatMap {a : Analysis} (sound : a.Sound) : a.groups.flatMap Prod.snd = a.features := by
  rw [groups, List.flatMap_map]
  exact Feature.flatMap_filter_support sound.ordered

theorem length_group {a : Analysis} (sound : a.Sound) {g : Support × List Feature}
    (mem : g ∈ a.groups) : g.2.length = a.summary.count g.1 := by
  rw [mem_groups mem, sound.summary_eq, Summary.ofFeatures_eq, ← List.countP_eq_length_filter]
  cases g.1 <;> exact List.countP_congr fun f _ => by simp

end Analysis

namespace Report

/-- What a report shows of a group with features: its heading and the identifiers below. -/
structure Block where
  support : Support
  count : Nat
  ids : List String

namespace Block

def ofGroup (g : Support × List Feature) : Block := ⟨g.1, g.2.length, g.2.map Feature.id⟩

def heading (b : Block) : String :=
  b.support.icon ++ " " ++ b.support.label ++ " (" ++ toString b.count ++ ")"

/-- The lines of the block in Markdown. -/
def markdown (b : Block) : List String :=
  ["### " ++ b.heading, ""] ++ b.ids.map (fun id => "- **" ++ id ++ "**") ++ [""]

/-- The lines of the block in a text. -/
def text (withDocs : Bool) (b : Block) : List String :=
  ["", b.heading] ++ b.ids.map fun id => "  " ++ featureLine withDocs (.detected id b.support)

end Block

/-- The blocks of groups. A group without features has none. -/
def blocksOf (groups : List (Support × List Feature)) : List Block :=
  (groups.filter fun g => g.2 ≠ []).map Block.ofGroup

/-- The blocks of an outcome. -/
def blocks (a : Analysis) : List Block := blocksOf a.groups

/-- A text of groups is written line by line if each of its groups is. -/
theorem join_groups {write : Support × List Feature → String} {linesOf : Block → List String}
    (none : ∀ s, write (s, []) = "")
    (some : ∀ s f fs, write (s, f :: fs) =
      String.join ((linesOf (.ofGroup (s, f :: fs))).map (· ++ "\n")))
    (groups : List (Support × List Feature)) :
    String.join (groups.map write) =
      String.join (((blocksOf groups).flatMap linesOf).map (· ++ "\n")) := by
  induction groups with
  | nil => rfl
  | cons g rest ih =>
      obtain ⟨s, features⟩ := g
      cases features with
      | nil => simpa [blocksOf, none] using ih
      | cons f fs => simpa [blocksOf, some] using ih

theorem id_of_mem_blocks {a : Analysis} {b : Block} (mem : b ∈ blocks a) {id : String}
    (listed : id ∈ b.ids) : id ∈ a.features.map Feature.id := by
  obtain ⟨g, full, rfl⟩ := List.mem_map.mp mem
  rw [Block.ofGroup, Analysis.mem_groups (List.mem_of_mem_filter full)] at listed
  exact (List.filter_sublist.map Feature.id).mem listed

end Report

namespace Instant

theorem oneLine_toSecondText (t : Instant) : OneLine t.toSecondText := by
  simp only [toSecondText, oneLine_append, oneLine_ofList]
  refine ⟨?_, by simp⟩
  simp [clockText, not_mem_padded, not_mem_dateText]

end Instant

namespace Documentation

end Documentation

namespace Report

/-- The lines before the summary. -/
def markdownTitle (a : Analysis) (time : Instant) : List String :=
  ["# Baseline Report", "", "*Generated on " ++ time.toSecondText ++ "*", "",
    "**Language:** " ++ a.language.name, ""]

/-- The lines of the summary and the title above the groups. -/
def markdownSummary (s : Summary) : List String :=
  ["## Summary", "", "- **Total Features Detected:** " ++ toString s.total] ++
    Support.all.map (fun t => "- **" ++ t.icon ++ " " ++ t.label ++ ":** " ++ toString (s.count t)) ++
    ["", "## Detailed Results", ""]

def markdownFoot : List String := ["---", "", "*Report generated by baseline-check*"]

/-- What the report says after its title. -/
def markdownBody (a : Analysis) : List String :=
  if a.isEmpty then
    ["No features detected in the provided code."]
  else
    markdownSummary a.summary ++ (blocks a).flatMap Block.markdown ++ markdownFoot

theorem markdownGroup_cons (s : Support) (f : Feature) (fs : List Feature) :
    markdownGroup (s, f :: fs) =
      String.join ((Block.ofGroup (s, f :: fs)).markdown.map (· ++ "\n")) := by
  have items : (f :: fs).map (fun g => "- **" ++ g.id ++ "**\n") =
      (((f :: fs).map Feature.id).map fun id => "- **" ++ id ++ "**").map (· ++ "\n") := by
    simp [String.append_assoc]
  simp only [markdownGroup, items, Block.ofGroup, Block.markdown, Block.heading, List.map_append,
    String.join_append]
  rw [← String.toList_inj]
  simp

theorem markdown_eq_join (a : Analysis) (time : Instant) :
    markdown a time =
      String.join ((markdownTitle a time ++ markdownBody a).map (· ++ "\n")) := by
  cases empty : a.isEmpty with
  | true =>
      rw [← String.toList_inj]
      simp [markdown, markdownBody, empty, markdownTitle, noFeatures]
  | false =>
      have groups := join_groups (fun _ => rfl) markdownGroup_cons a.groups
      simp only [markdownBody, empty, Bool.false_eq_true, if_false, List.map_append,
        String.join_append, blocks, ← groups]
      rw [← String.toList_inj]
      simp [markdown, empty, markdownTitle, markdownSummary, markdownFoot, Support.all]

@[simp] theorem oneLine_icon (s : Support) : OneLine s.icon := by
  cases s <;> simp [Support.icon]

@[simp] theorem oneLine_label (s : Support) : OneLine s.label := by
  cases s <;> simp [Support.label]

@[simp] theorem oneLine_language (l : Language) : OneLine l.name := by
  cases l <;> simp [Language.name]

theorem Block.oneLine_heading (b : Block) : OneLine b.heading := by
  simp [Block.heading]

theorem Block.oneLine_markdown {b : Block} (plain : ∀ id ∈ b.ids, OneLine id) :
    ∀ line ∈ b.markdown, OneLine line := by
  have items : ∀ id ∈ b.ids, OneLine ("- **" ++ id ++ "**") := fun id mem =>
    oneLine_append.mpr ⟨oneLine_append.mpr ⟨by simp, plain id mem⟩, by simp⟩
  simpa [Block.markdown, or_imp, forall_and, b.oneLine_heading] using items

theorem oneLine_markdownTitle (a : Analysis) (time : Instant) :
    ∀ line ∈ markdownTitle a time, OneLine line := by
  simp [markdownTitle, time.oneLine_toSecondText]

theorem oneLine_markdownSummary (s : Summary) : ∀ line ∈ markdownSummary s, OneLine line := by
  simp [markdownSummary, Support.all]

theorem oneLine_markdownFoot : ∀ line ∈ markdownFoot, OneLine line := by
  simp [markdownFoot]

theorem plain_of_mem_blocks {a : Analysis} (plain : ∀ f ∈ a.features, OneLine f.id) {b : Block}
    (mem : b ∈ blocks a) : ∀ id ∈ b.ids, OneLine id := by
  intro id listed
  obtain ⟨f, here, rfl⟩ := List.mem_map.mp (id_of_mem_blocks mem listed)
  exact plain f here

theorem lines_markdown {a : Analysis} (plain : ∀ f ∈ a.features, OneLine f.id) (time : Instant) :
    lines (markdown a time) = markdownTitle a time ++ markdownBody a ++ [""] := by
  rw [markdown_eq_join, lines_join]
  rw [List.forall_mem_append, markdownBody]
  refine ⟨oneLine_markdownTitle a time, ?_⟩
  split
  next => decide
  next =>
    simp only [List.forall_mem_append, List.forall_mem_flatMap]
    refine ⟨⟨?_, ?_⟩, ?_⟩
    · exact oneLine_markdownSummary a.summary
    · exact fun b mem => Block.oneLine_markdown (plain_of_mem_blocks plain mem)
    · exact oneLine_markdownFoot

end Report
end FeatureScan
