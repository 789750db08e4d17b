import FeatureScan.Documentation
import FeatureScan.Proofs.Text.Pieces

/-!
Which identifiers have a page, and where it lies. Every feature with a compatibility page stands
in the curated table too, and the table is asked first, so no address leads to the compatibility
pages.
-/

namespace FeatureScan
namespace Documentation

variable {id : String}

/-- The start that tells the form of an identifier. -/
def BeginsWith (start id : String) : Prop := start.toList <+: id.toList

/-- The identifier names an edition by its year, in decimal digits. -/
def NamesEdition (id : String) : Prop :=
  ∃ year : Nat, 2015 ≤ year ∧ year ≤ 2024 ∧ (toString year).toList <:+: id.toList

theorem startsWith_iff {start : String} :
    Text.startsWith start id = true ↔ BeginsWith start id := List.isPrefixOf_iff_prefix

theorem mentionsYear_iff : mentionsYear id = true ↔ NamesEdition id := by
  simp only [mentionsYear, years, NamesEdition, List.any_eq_true, List.mem_range'_1,
    Text.occursIn_iff]
  refine exists_congr fun year => ?_
  rw [and_assoc, Nat.lt_succ_iff]

theorem afterStart?_isSome_iff {start : String} :
    (afterStart? start id).isSome = true ↔ BeginsWith start id := by
  rw [afterStart?, ← startsWith_iff]
  cases Text.startsWith start id <;> simp

theorem page?_isSome_iff : (page? id).isSome = true ↔ id ∈ pages.map Prod.fst := by
  simp only [page?, Option.isSome_map, List.find?_isSome, List.mem_map, beq_iff_eq]

set_option maxRecDepth 20000 in
/-- The names are compared as lists of characters, which the kernel reads faster than texts. -/
theorem compatibilityPages_subset : compatibilityPages ⊆ pages.map Prod.fst := by
  have spelled : ∀ s ∈ compatibilityPages.map String.toList,
      s ∈ pages.map fun p => p.1.toList := by
    simp only [compatibilityPages, pages, List.map_cons, List.map_nil, Text.toList_literal]
    decide +kernel
  intro id mem
  obtain ⟨p, listed, same⟩ := List.mem_map.mp (spelled _ (List.mem_map_of_mem mem))
  exact List.mem_map.mpr ⟨p, listed, String.toList_injective same⟩

/-- The list of compatibility pages decides no address: what is in it is in the table. -/
theorem address?_eq (id : String) :
    address? id = ((page? id).map (referenceBase ++ ·)).or (derived? id) := by
  rw [address?]
  cases found : page? id with
  | some page => rfl
  | none =>
      have unlisted : compatibilityPages.contains id = false := by
        rw [List.contains_eq_mem, decide_eq_false_iff_not]
        intro mem
        have listed := page?_isSome_iff.mpr (compatibilityPages_subset mem)
        rw [found] at listed
        cases listed
      rw [unlisted]
      rfl

theorem derived?_isSome_iff :
    (derived? id).isSome = true ↔
      BeginsWith "css-" id ∨ BeginsWith "input-" id ∨ BeginsWith "es" id ∧ NamesEdition id := by
  have style : (afterStart? "css-" id).isSome = true ↔ BeginsWith "css-" id := afterStart?_isSome_iff
  have input : (afterStart? "input-" id).isSome = true ↔ BeginsWith "input-" id :=
    afterStart?_isSome_iff
  rw [derived?, ← style, ← input, ← startsWith_iff, ← mentionsYear_iff]
  cases afterStart? "css-" id with
  | some property => simp
  | none =>
      cases afterStart? "input-" id with
      | some kind => simp
      | none => simp

theorem below_base (page : String) : referenceBase.toList <+: (referenceBase ++ page).toList := by
  rw [String.toList_append]
  exact List.prefix_append _ _

theorem below_base_of_derived {address : String} (found : derived? id = some address) :
    referenceBase.toList <+: address.toList := by
  rw [derived?] at found
  split at found
  next =>
    cases found
    rw [String.append_assoc]
    exact below_base _
  next =>
    split at found
    next =>
      cases found
      rw [String.append_assoc]
      exact below_base _
    next =>
      split at found
      next =>
        cases found
        exact below_base _
      next => cases found

/-- An address is known for the features of the table and for identifiers of three forms, and for
nothing else. It lies below the reference base, and the list of compatibility pages has no say in
it. -/
theorem address_of_table_or_form (id : String) :
    ((address? id).isSome = true ↔
        id ∈ pages.map Prod.fst ∨ BeginsWith "css-" id ∨ BeginsWith "input-" id ∨
          BeginsWith "es" id ∧ NamesEdition id) ∧
      (∀ address, address? id = some address → referenceBase.toList <+: address.toList) ∧
      (id ∈ compatibilityPages → id ∈ pages.map Prod.fst) ∧
      address? id = ((page? id).map (referenceBase ++ ·)).or (derived? id) := by
  refine ⟨?_, fun address found => ?_, fun mem => compatibilityPages_subset mem, address?_eq id⟩
  · rw [address?_eq, Option.isSome_or, Bool.or_eq_true, Option.isSome_map, page?_isSome_iff,
      derived?_isSome_iff]
  · rw [address?_eq, Option.or_eq_some_iff] at found
    rcases found with listed | ⟨_, derived⟩
    · obtain ⟨page, _, rfl⟩ := Option.map_eq_some_iff.mp listed
      exact below_base page
    · exact below_base_of_derived derived

/-- A feature of both lists has the page of the table. -/
theorem address_of_nesting :
    let address := referenceBase ++ "CSS/CSS_Nesting"
    "css-nesting" ∈ compatibilityPages ∧ "css-nesting" ∈ pages.map Prod.fst ∧
      address? "css-nesting" = some address ∧ referenceBase.toList <+: address.toList := by
  intro address
  obtain ⟨_, below, listed, _⟩ := address_of_table_or_form "css-nesting"
  have both : "css-nesting" ∈ compatibilityPages := by decide
  have found : address? "css-nesting" = some address := by decide +kernel
  exact ⟨both, listed both, found, below address found⟩

end Documentation
end FeatureScan
