import FeatureScan.Json.Shape
import FeatureScan.Proofs.Outcome

/-!
The values of a shape, and that reading a text by a shape gives one of them. A value is
admitted in canonical form only: the members of a record are those of the shape, in its
order, and a checked value has passed its check.
-/

namespace FeatureScan
namespace Json
namespace Shape

mutual

def Admits : Shape → Json → Prop
  | .text, v => ∃ s, v = .text s
  | .flag, v => ∃ b, v = .bool b
  | .count, v => ∃ n, n ≤ greatestWhole ∧ v = .number (.nat n)
  | .written _ accepts, v => ∃ s, accepts s = true ∧ v = .text s
  | .choice names, v => ∃ s, s ∈ names ∧ v = .text s
  | .list item, v => ∃ items, (∀ i ∈ items, item.Admits i) ∧ v = .list items
  | .option item, v => v = .null ∨ item.Admits v
  | .record _ fields, v => ∃ members, AdmitsFields fields members ∧ v = .object members
  | .checked base fault, v => base.Admits v ∧ fault v = none

def AdmitsFields : List (String × Shape) → List (String × Json) → Prop
  | [], members => members = []
  | f :: fields, members =>
      ∃ v rest, AdmitsField f v ∧ AdmitsFields fields rest ∧ members = (f.1, v) :: rest

def AdmitsField : String × Shape → Json → Prop
  | (_, shape), v => shape.Admits v

end

mutual

/-- No record names a field twice. -/
def Regular : Shape → Prop
  | .list item => item.Regular
  | .option item => item.Regular
  | .record _ fields => (fields.map Prod.fst).Nodup ∧ RegularFields fields
  | .checked base _ => base.Regular
  | _ => True

def RegularFields : List (String × Shape) → Prop
  | [] => True
  | f :: rest => RegularField f ∧ RegularFields rest

def RegularField : String × Shape → Prop
  | (_, shape) => shape.Regular

end

@[simp] theorem admitsField_iff (f : String × Shape) (v : Json) :
    AdmitsField f v ↔ f.2.Admits v := by
  cases f
  rfl

theorem admitsFields_nil : AdmitsFields [] [] := rfl

theorem AdmitsFields.cons {name : String} {s : Shape} {v : Json} {fields : List (String × Shape)}
    {members : List (String × Json)} (first : s.Admits v) (others : AdmitsFields fields members) :
    AdmitsFields ((name, s) :: fields) ((name, v) :: members) :=
  ⟨v, members, first, others, rfl⟩

theorem AdmitsFields.record {fields : List (String × Shape)} {members : List (String × Json)}
    (h : AdmitsFields fields members) (recordName : String) :
    (Shape.record recordName fields).Admits (.object members) :=
  ⟨members, h, rfl⟩

theorem admits_text (t : String) : Shape.text.Admits (.text t) := ⟨t, rfl⟩

theorem admits_flag (b : Bool) : Shape.flag.Admits (.bool b) := ⟨b, rfl⟩

theorem admits_count {n : Nat} (fits : n ≤ greatestWhole) :
    Shape.count.Admits (.number (.nat n)) :=
  ⟨n, fits, rfl⟩

theorem regularFields_iff (fields : List (String × Shape)) :
    RegularFields fields ↔ ∀ f ∈ fields, f.2.Regular := by
  induction fields with
  | nil => simp [RegularFields]
  | cons f rest ih =>
      obtain ⟨name, shape⟩ := f
      simp [RegularFields, RegularField, ih]

@[simp] theorem readField_name (f : String × Shape) : (readField f).name = f.1 := by
  cases f
  rfl

@[simp] theorem readField_read (f : String × Shape) : (readField f).read = f.2.read := by
  cases f
  rfl

/-- Induction over shapes in which the fields of a record come as a list. -/
@[induction_eliminator]
theorem induct {P : Shape → Prop} (text : P .text) (flag : P .flag) (count : P .count)
    (written : ∀ what accepts, P (.written what accepts)) (choice : ∀ names, P (.choice names))
    (list : ∀ item, P item → P (.list item)) (option : ∀ item, P item → P (.option item))
    (record : ∀ name fields, (∀ f ∈ fields, P f.2) → P (.record name fields))
    (checked : ∀ base fault, P base → P (.checked base fault)) (s : Shape) : P s :=
  @Shape.rec P (fun fields => ∀ f ∈ fields, P f.2) (fun f => P f.2) text flag count written choice
    list option record checked (fun _ h => nomatch h)
    (fun _ _ hf hrest => List.forall_mem_cons.mpr ⟨hf, hrest⟩) (fun _ _ h => h) s

end Shape

/-- What a reader may give. -/
def Gives (reader : TextReader) (P : Json → Prop) : Prop :=
  ∀ input v rest, reader input = .ok (v, rest) → P v

theorem wrongKind_ne_ok {α : Type} (expected : String) (input : List Char) (a : α) :
    wrongKind expected input ≠ .ok a := by
  intro h
  unfold wrongKind at h
  split at h
  · cases h
  · cases h
  · cases h
  · obtain ⟨_, _, h⟩ := bind_eq_ok.mp h
    cases h

theorem readFlag_gives : Gives readFlag fun v => ∃ b, v = .bool b := by
  intro input v rest h
  unfold readFlag at h
  split at h
  · obtain ⟨_, _, h⟩ := map_eq_ok.mp h
    cases h
    exact ⟨true, rfl⟩
  · obtain ⟨_, _, h⟩ := map_eq_ok.mp h
    cases h
    exact ⟨false, rfl⟩
  · exact absurd h (wrongKind_ne_ok _ _ _)

theorem mem_of_known {names : List String} {name message : String} {input : List Char}
    (h : (if names.contains name then .ok () else unsuitable message input : Except Problem Unit) =
      .ok ()) : name ∈ names := by
  split at h
  next mem => exact List.contains_iff_mem.mp mem
  next => cases h

theorem readChoice_gives (names : List String) :
    Gives (readChoice names) fun v => ∃ s, s ∈ names ∧ v = .text s := by
  intro input v rest h
  unfold readChoice at h
  dsimp only at h
  split at h
  · cases h
  · obtain ⟨⟨name, _⟩, _, h⟩ := bind_eq_ok.mp h
    obtain ⟨_, known, h⟩ := bind_eq_ok.mp h
    cases h
    exact ⟨name, mem_of_known known, rfl⟩
  · obtain ⟨⟨name, _⟩, _, h⟩ := bind_eq_ok.mp h
    obtain ⟨_, known, h⟩ := bind_eq_ok.mp h
    obtain ⟨_, _, h⟩ := bind_eq_ok.mp h
    -- The value after the colon is null or a fault; only the brace can follow.
    split at h
    all_goals
      obtain ⟨_, _, h⟩ := bind_eq_ok.mp h
      split at h
      · cases h
      · cases h
        exact ⟨name, mem_of_known known, rfl⟩
      · cases h
  · cases h

theorem readItemsWith_gives {item : TextReader} {P : Json → Prop} (each : Gives item P) :
    ∀ fuel first items input v rest, (∀ i ∈ items, P i) →
      readItemsWith item fuel first items input = .ok (v, rest) →
        ∃ all, (∀ i ∈ all, P i) ∧ v = .list all := by
  intro fuel
  induction fuel with
  | zero => intro _ _ _ _ _ _ h; cases h
  | succ fuel ih =>
      intro first items input v rest taken h
      obtain ⟨next, _, h⟩ := bind_eq_ok.mp h
      cases next with
      | none =>
          cases h
          exact ⟨items.reverse, by simpa using taken, rfl⟩
      | some input =>
          obtain ⟨⟨i, _⟩, hi, h⟩ := bind_eq_ok.mp h
          exact ih _ _ _ _ _ (List.forall_mem_cons.mpr ⟨each _ _ _ hi, taken⟩) h

theorem readListWith_gives {item : TextReader} {P : Json → Prop} (each : Gives item P) :
    Gives (readListWith item) fun v => ∃ all, (∀ i ∈ all, P i) ∧ v = .list all := by
  intro input v rest h
  unfold readListWith at h
  split at h
  · exact readItemsWith_gives each _ _ _ _ _ _ (by simp) h
  · exact absurd h (wrongKind_ne_ok _ _ _)

/-- The first field of an assembled record: what was given for it, or null. -/
theorem assemble_cons_eq_ok {ρ : Type} {given members : List (String × Json)} {f : Field ρ}
    {fields : List (Field ρ)} :
    assemble given (f :: fields) = .ok members ↔
      ∃ v others, (lookupEntry f.name given = some v ∨
          lookupEntry f.name given = none ∧ f.optional = true ∧ v = .null) ∧
        assemble given fields = .ok others ∧ members = (f.name, v) :: others := by
  rw [assemble]
  cases found : lookupEntry f.name given with
  | some w =>
      constructor
      · intro h
        obtain ⟨_, hw, h⟩ := bind_eq_ok.mp h
        obtain ⟨others, ho, h⟩ := bind_eq_ok.mp h
        cases hw
        cases h
        exact ⟨w, others, Or.inl rfl, ho, rfl⟩
      · rintro ⟨v, others, same | ⟨none, _⟩, ho, rfl⟩
        · cases same
          exact bind_eq_ok.mpr ⟨w, rfl, bind_eq_ok.mpr ⟨others, ho, rfl⟩⟩
        · cases none
  | none =>
      cases optional : f.optional with
      | false =>
          refine ⟨fun h => (nomatch h), ?_⟩
          rintro ⟨v, others, same | ⟨_, h, _⟩, _⟩
          · cases same
          · cases h
      | true =>
          constructor
          · intro h
            obtain ⟨_, hw, h⟩ := bind_eq_ok.mp h
            obtain ⟨others, ho, h⟩ := bind_eq_ok.mp h
            cases hw
            cases h
            exact ⟨.null, others, Or.inr ⟨rfl, rfl, rfl⟩, ho, rfl⟩
          · rintro ⟨v, others, same | ⟨_, _, rfl⟩, ho, rfl⟩
            · cases same
            · exact bind_eq_ok.mpr ⟨.null, rfl, bind_eq_ok.mpr ⟨others, ho, rfl⟩⟩

theorem assemble_admits {fields : List (String × Shape)} {given members : List (String × Json)}
    (all : ∀ f ∈ fields, ∀ v, lookupEntry f.1 given = some v → f.2.Admits v)
    (h : assemble given (Shape.readFields fields) = .ok members) :
    Shape.AdmitsFields fields members := by
  induction fields generalizing members with
  | nil =>
      cases h
      rfl
  | cons f fields ih =>
      obtain ⟨v, others, hv, ho, rfl⟩ := assemble_cons_eq_ok.mp h
      rw [Shape.readField_name] at hv ⊢
      refine ⟨v, others, ?_, ih (fun g hg => all g (List.mem_cons_of_mem f hg)) ho, rfl⟩
      rw [Shape.admitsField_iff]
      rcases hv with found | ⟨_, optional, rfl⟩
      · exact all f List.mem_cons_self v found
      · obtain ⟨name, shape⟩ := f
        cases shape with
        | option item => exact Or.inl rfl
        | _ => cases optional

theorem readFieldItems_admits {fields : List (String × Shape)}
    (each : ∀ f ∈ fields, Gives f.2.read f.2.Admits) :
    ∀ {size index first input members rest},
      readFieldItems size index first (Shape.readFields fields) input = .ok (members, rest) →
        Shape.AdmitsFields fields members := by
  induction fields with
  | nil =>
      intro size index first input members rest h
      unfold Shape.readFields readFieldItems at h
      split at h
      · cases h
      · cases h
        rfl
      · split at h <;> cases h
      · cases h
  | cons f fields ih =>
      intro size index first input members rest h
      obtain ⟨next, _, h⟩ := bind_eq_ok.mp h
      cases next with
      | none => cases h
      | some input =>
          obtain ⟨⟨v, _⟩, hv, h⟩ := bind_eq_ok.mp h
          obtain ⟨⟨others, _⟩, ho, h⟩ := bind_eq_ok.mp h
          cases h
          rw [Shape.readField_read] at hv
          refine ⟨v, others, ?_, ih (fun g hg => each g (List.mem_cons_of_mem f hg)) ho, ?_⟩
          · rw [Shape.admitsField_iff]
            exact each f List.mem_cons_self _ _ _ hv
          · rw [Shape.readField_name]

theorem find?_readFields {fields : List (String × Shape)} (distinct : (fields.map Prod.fst).Nodup)
    {f : String × Shape} (hf : f ∈ fields) :
    (Shape.readFields fields).find? (·.name == f.1) = some (Shape.readField f) := by
  induction fields with
  | nil => cases hf
  | cons g rest ih =>
      rw [List.map_cons, List.nodup_cons] at distinct
      rw [Shape.readFields, List.find?_cons, Shape.readField_name]
      rcases List.mem_cons.mp hf with rfl | hf
      · simp
      · have ne : g.1 ≠ f.1 := fun same =>
          distinct.1 (same ▸ List.mem_map_of_mem hf)
        rw [beq_eq_false_iff_ne.mpr ne]
        exact ih distinct.2 hf

theorem readFieldMembers_admits {fields : List (String × Shape)}
    (distinct : (fields.map Prod.fst).Nodup) (each : ∀ f ∈ fields, Gives f.2.read f.2.Admits) :
    ∀ fuel first given input members rest,
      (∀ f ∈ fields, ∀ v, lookupEntry f.1 given = some v → f.2.Admits v) →
        readFieldMembers (Shape.readFields fields) fuel first given input = .ok (members, rest) →
          Shape.AdmitsFields fields members := by
  intro fuel
  induction fuel with
  | zero => intro _ _ _ _ _ _ h; cases h
  | succ fuel ih =>
      intro first given input members rest all h
      obtain ⟨next, _, h⟩ := bind_eq_ok.mp h
      cases next with
      | none =>
          dsimp only at h
          split at h
          next done =>
            cases h
            exact assemble_admits all done
          next => cases h
      | some input =>
          obtain ⟨⟨name, after⟩, _, h⟩ := bind_eq_ok.mp h
          dsimp only at h
          split at h
          next reader found =>
            split at h
            next => cases h
            next fresh =>
              obtain ⟨_, _, h⟩ := bind_eq_ok.mp h
              obtain ⟨⟨v, _⟩, hv, h⟩ := bind_eq_ok.mp h
              refine ih _ _ _ _ _ (fun f hf w hw => ?_) h
              rw [lookupEntry] at hw
              split at hw
              next same =>
                cases hw
                subst same
                rw [find?_readFields distinct hf] at found
                cases found
                rw [Shape.readField_read] at hv
                exact each f hf _ _ _ hv
              next => exact all f hf w hw
          next =>
            obtain ⟨_, _, h⟩ := bind_eq_ok.mp h
            obtain ⟨_, _, h⟩ := bind_eq_ok.mp h
            exact ih _ _ _ _ _ all h

theorem fitting_le (digits : List Char) {n : Nat} (h : n ≤ greatestWhole) :
    (fitting n digits).1 ≤ greatestWhole := by
  induction digits generalizing n with
  | nil => exact h
  | cons c rest ih =>
      rw [fitting]
      split
      next => exact h
      next fits => exact ih (Nat.not_lt.mp fits)

theorem realOf_ne_nat {negative : Bool} {significand n : Nat} {exponent : Int}
    {input rest : List Char} : realOf negative significand exponent input ≠ .ok (.nat n, rest) := by
  intro h
  unfold realOf at h
  split at h <;> cases h

theorem readExponent_ne_nat {negative : Bool} {significand n : Nat} {exponent : Int}
    {input rest : List Char} :
    readExponent negative significand exponent input ≠ .ok (.nat n, rest) := by
  intro h
  unfold readExponent at h
  split at h
  -- The sign of the exponent has been taken; a digit must follow.
  split at h
  · cases h
  · split at h
    · cases h
    · extract_lets at h
      split at h
      · split at h <;> cases h
      · exact realOf_ne_nat h

theorem readPlaces_ne_nat {negative : Bool} {significand n : Nat} {exponent : Int}
    {input rest : List Char} :
    readPlaces negative significand exponent input ≠ .ok (.nat n, rest) := by
  intro h
  unfold readPlaces at h
  split at h
  · split at h <;> cases h
  · generalize fitting significand _ = fitted at h
    obtain ⟨m, used⟩ := fitted
    dsimp only at h
    split at h
    · exact readExponent_ne_nat h
    · exact readExponent_ne_nat h
    · exact realOf_ne_nat h

theorem readNumber_nat_le {negative : Bool} {n : Nat} {input rest : List Char}
    (h : readNumber negative input = .ok (.nat n, rest)) : n ≤ greatestWhole := by
  unfold readNumber at h
  split at h
  · cases h
  · split at h
    · cases h
    · split at h
      · cases h
      · extract_lets digits after at h
        clear_value digits after
        have fits := fitting_le digits (Nat.zero_le greatestWhole)
        generalize fitting 0 digits = fitted at fits h
        obtain ⟨m, used⟩ := fitted
        dsimp only at h
        split at h
        · exact absurd h readPlaces_ne_nat
        · exact absurd h readExponent_ne_nat
        · exact absurd h readExponent_ne_nat
        · split at h
          · exact absurd h realOf_ne_nat
          · split at h
            · cases h
              exact fits
            · split at h
              · exact absurd h realOf_ne_nat
              · cases h

theorem readCount_gives :
    Gives readCount fun v => ∃ n, n ≤ greatestWhole ∧ v = .number (.nat n) := by
  intro input v rest h
  unfold readCount at h
  extract_lets checked at h
  have counted : ∀ {negative : Bool} {number : Number} {input after : List Char},
      readNumber negative input = .ok (number, after) → checked number after = .ok (v, rest) →
      ∃ n, n ≤ greatestWhole ∧ v = .number (.nat n) := by
    intro negative number input after hn h
    cases number with
    | nat n =>
        cases h
        exact ⟨n, readNumber_nat_le hn, rfl⟩
    | negSucc n => cases h
    | real x => cases h
  split at h
  · obtain ⟨⟨number, after⟩, hn, h⟩ := bind_eq_ok.mp h
    exact counted hn h
  · split at h
    · obtain ⟨⟨number, after⟩, hn, h⟩ := bind_eq_ok.mp h
      exact counted hn h
    · exact absurd h (wrongKind_ne_ok _ _ _)
  · cases h

theorem Shape.read_admits (s : Shape) (regular : s.Regular) : Gives s.read s.Admits := by
  induction s with
  | text =>
      intro input v rest h
      obtain ⟨⟨t, _⟩, _, h⟩ := map_eq_ok.mp h
      cases h
      exact ⟨t, rfl⟩
  | flag => exact readFlag_gives
  | count => exact readCount_gives
  | written what accepts =>
      intro input v rest h
      obtain ⟨⟨t, _⟩, _, h⟩ := bind_eq_ok.mp h
      dsimp only at h
      split at h
      next accepted =>
        cases h
        exact ⟨t, accepted, rfl⟩
      next => cases h
  | choice names => exact readChoice_gives names
  | list item ih => exact readListWith_gives (ih regular)
  | option item ih =>
      intro input v rest h
      unfold Shape.read readOptionWith at h
      split at h
      · obtain ⟨_, _, h⟩ := map_eq_ok.mp h
        cases h
        exact Or.inl rfl
      · exact Or.inr (ih regular _ _ _ h)
  | record name fields ih =>
      obtain ⟨distinct, all⟩ := regular
      have each : ∀ f ∈ fields, Gives f.2.read f.2.Admits := fun f hf =>
        ih f hf ((regularFields_iff fields).mp all f hf)
      intro input v rest h
      unfold Shape.read readRecordWith at h
      split at h
      · obtain ⟨⟨members, _⟩, hm, h⟩ := map_eq_ok.mp h
        cases h
        exact ⟨members, readFieldItems_admits each hm, rfl⟩
      · obtain ⟨⟨members, _⟩, hm, h⟩ := map_eq_ok.mp h
        cases h
        refine ⟨members, readFieldMembers_admits distinct each _ _ _ _ _ _ ?_ hm, rfl⟩
        intro _ _ _ none
        cases none
      · exact absurd h (wrongKind_ne_ok _ _ _)
  | checked base fault ih =>
      intro input v rest h
      obtain ⟨⟨w, _⟩, hw, h⟩ := bind_eq_ok.mp h
      dsimp only at h
      split at h
      next => cases h
      next passed =>
        cases h
        exact ⟨ih regular _ _ _ hw, passed⟩

theorem Shape.readDocument_admits {s : Shape} (regular : s.Regular) {text : String} {v : Json}
    (h : s.readDocument text = .ok v) : s.Admits v := by
  unfold Shape.readDocument readEnd at h
  obtain ⟨⟨w, _⟩, hw, h⟩ := bind_eq_ok.mp h
  dsimp only at h
  split at h
  · cases h
    exact s.read_admits regular _ _ _ hw
  · cases h

end Json
end FeatureScan
