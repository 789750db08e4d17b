import FeatureScan.Proofs.Json.Documents

/-!
The reader reads exactly the documents of the grammar that keep to its limits: every text that is
read spells one.
-/

namespace FeatureScan
namespace Json

open Mark (join?)
open Document (values entries Within)

variable {first : Bool} {input rest : List Char}

/-- A value was read from the front of the input. -/
def ValueRead (depth : Nat) (input : List Char) (v : Json) (rest : List Char) : Prop :=
  ∃ b d s, Blank b ∧ input = b ++ (s ++ rest) ∧ Spells (.value d) s ∧ d.Within readerLimits depth ∧
    d.value = v

/-- Items were read up to the closing bracket, if any was left. -/
inductive ItemsRead (depth : Nat) (first : Bool) (taken : List Json) :
    List Char → List Json → List Char → Prop
  | none {b rest} (blank : Blank b) :
      ItemsRead depth first taken (b ++ ']' :: rest) taken.reverse rest
  | some {ds s input rest} (lead : Lead first (s ++ ']' :: rest) input)
      (spelled : Spells (.items ds) s) (each : ∀ d ∈ ds, d.Within readerLimits depth) :
      ItemsRead depth first taken input (taken.reverse ++ values ds) rest

inductive MembersRead (depth : Nat) (first : Bool) (kept : List (String × Json)) :
    List Char → List (String × Json) → List Char → Prop
  | none {b rest} (blank : Blank b) : MembersRead depth first kept (b ++ '\x7d' :: rest) kept rest
  | some {ms s input rest} (lead : Lead first (s ++ '\x7d' :: rest) input)
      (spelled : Spells (.members ms) s) (names : ∀ m ∈ ms, (join? m.1).isSome = true)
      (each : ∀ m ∈ ms, m.2.Within readerLimits depth) :
      MembersRead depth first kept input (entries kept ms) rest

theorem itemsRead_cons {depth : Nat} {taken : List Json} {input more rest : List Char}
    {item : Json} {items : List Json} {b : List Char} (before : Blank b)
    (lead : Lead first (b ++ more) input) (value : ValueRead depth more item rest)
    {left : List Char} (others : ItemsRead depth false (item :: taken) rest items left) :
    ItemsRead depth first taken input items left := by
  obtain ⟨b', d, s, blank, rfl, spelled, within, rfl⟩ := value
  rw [← List.append_assoc] at lead
  cases others with
  | @none b'' _ after =>
      have each : ∀ e ∈ [d], e.Within readerLimits depth := by simpa using within
      have spelled := Spells.lastItem (before.append blank) spelled after
      rw [List.reverse_cons]
      exact .some (by simpa using lead) spelled each
  | @some ds s' _ _ comma spelled' each =>
      cases comma with
      | @comma b'' _ after =>
          have spelled := Spells.item (before.append blank) spelled after spelled'
          have each : ∀ e ∈ d :: ds, e.Within readerLimits depth :=
            List.forall_mem_cons.mpr ⟨within, each⟩
          rw [List.reverse_cons, List.append_assoc]
          exact .some (by simpa using lead) spelled each

theorem membersRead_cons {depth fuel : Nat} {kept : List (String × Json)}
    {input next rest : List Char} {m : String × Json} {members : List (String × Json)}
    {b : List Char} (before : Blank b) (lead : Lead first (b ++ '"' :: next) input)
    (values : ∀ {input v rest}, readValue fuel depth input = .ok (v, rest) →
      ValueRead depth input v rest)
    (member : readMember fuel depth next = .ok (m, rest)) {left : List Char}
    (others : MembersRead depth false (insertEntry m.1 m.2 kept) rest members left) :
    MembersRead depth first kept input members left := by
  obtain ⟨⟨t, after⟩, text, more⟩ := bind_eq_ok.mp member
  obtain ⟨⟨_, after⟩, colon, more⟩ := bind_eq_ok.mp more
  obtain ⟨⟨v, after⟩, value, same⟩ := bind_eq_ok.mp more
  cases same
  obtain ⟨name, s, named, joined, rfl, rfl⟩ := readText_eq_ok.mp text
  obtain ⟨b', blank', split⟩ := readColon_eq_ok.mp colon
  obtain ⟨b'', d, s', blank'', rfl, spelled, within, rfl⟩ := values value
  cases split
  have whole := Spells.member named blank' blank'' spelled
  cases others with
  | none after =>
      have spelled := Spells.lastMember before whole after
      exact .some (by simpa using lead) spelled (by simpa using joined) (by simpa using within)
  | @some ms _ _ _ comma spelled' names each =>
      cases comma with
      | comma after =>
          have spelled := Spells.members before whole after spelled'
          exact .some (by simpa using lead) spelled (List.forall_mem_cons.mpr ⟨joined, names⟩)
            (List.forall_mem_cons.mpr ⟨within, each⟩)

/-- What is read of the parts of a value with less fuel makes up the value. -/
theorem valueRead_of_readValue {fuel depth : Nat} {v : Json}
    (items : ∀ {depth input items rest}, readItems fuel depth true [] input = .ok (items, rest) →
      ItemsRead depth true [] input items rest)
    (members : ∀ {depth input members rest},
      readMembers fuel depth true [] input = .ok (members, rest) →
      MembersRead depth true [] input members rest)
    (read : readValue (fuel + 1) depth input = .ok (v, rest)) : ValueRead depth input v rest := by
  obtain ⟨b, blank, split⟩ := exists_skipSpace input
  unfold readValue at read
  split at read
  next => cases read
  next tail bracket =>
    cases depth with
    | zero => cases read
    | succ depth =>
        obtain ⟨⟨vs, _⟩, parts, same⟩ := map_eq_ok.mp read
        cases same
        rw [bracket] at split
        cases items parts with
        | none blank' =>
            exact ⟨b, .list [], _, blank, by simp [split], .emptyList blank', .list nofun, rfl⟩
        | @some ds s _ _ lead spelled each =>
            cases lead
            exact ⟨b, .list ds, _, blank, by simp [split], .list spelled, .list each, rfl⟩
  next tail brace =>
    cases depth with
    | zero => cases read
    | succ depth =>
        obtain ⟨⟨vs, _⟩, parts, same⟩ := map_eq_ok.mp read
        cases same
        rw [brace] at split
        cases members parts with
        | none blank' =>
            exact ⟨b, .object [], _, blank, by simp [split], .emptyObject blank',
              .object nofun nofun, rfl⟩
        | @some ms s _ _ lead spelled names each =>
            cases lead
            exact ⟨b, .object ms, _, blank, by simp [split], .object spelled, .object names each, rfl⟩
  next c tail _ _ start =>
    obtain ⟨d, s, same, spelled, within, value⟩ := exists_of_readScalar read
    exact ⟨b, d, s, blank, by rw [split, start, same], spelled, within depth, value⟩

/-- By induction on the fuel, for values, items and members at once. -/
theorem read_of_parts (fuel : Nat) :
    (∀ {depth input v rest}, readValue fuel depth input = .ok (v, rest) →
      ValueRead depth input v rest) ∧
    (∀ {depth first taken input items rest},
      readItems fuel depth first taken input = .ok (items, rest) →
      ItemsRead depth first taken input items rest) ∧
    ∀ {depth first kept input members rest},
      readMembers fuel depth first kept input = .ok (members, rest) →
      MembersRead depth first kept input members rest := by
  induction fuel with
  | zero => exact ⟨nofun, nofun, nofun⟩
  | succ fuel ih =>
      obtain ⟨values, items, members⟩ := ih
      refine ⟨valueRead_of_readValue items members, ?_, ?_⟩
      · intro depth first taken input _ rest read
        obtain ⟨next, found, more⟩ := bind_eq_ok.mp read
        cases next with
        | none =>
            obtain ⟨b, after, blank, rfl, behind⟩ := close_of_nextItem found
            cases more
            rw [behind]
            exact .none blank
        | some next =>
            obtain ⟨⟨item, after⟩, value, others⟩ := bind_eq_ok.mp more
            obtain ⟨b, before, lead⟩ := lead_of_nextItem found
            exact itemsRead_cons before lead (values value) (items others)
      · intro depth first kept input _ rest read
        cases found : nextMember first input with
        | error => simp [readMembers, found] at read
        | ok next =>
            cases next with
            | none =>
                obtain ⟨b, after, blank, rfl, behind⟩ := close_of_nextMember found
                simp only [readMembers, found, ok_bind, behind] at read
                cases read
                exact .none blank
            | some next =>
                rw [readMembers_succ found] at read
                obtain ⟨⟨m, after⟩, member, others⟩ := bind_eq_ok.mp read
                obtain ⟨b, before, lead⟩ := lead_of_nextMember found
                exact membersRead_cons before lead values member (members others)

theorem skipSpace_eq_nil : skipSpace input = [] ↔ Blank input := List.dropWhile_eq_nil_iff

theorem readEnd_eq_ok {outcome : Except Problem (Json × List Char)} {v : Json} :
    readEnd outcome = .ok v ↔ ∃ rest, outcome = .ok (v, rest) ∧ Blank rest := by
  constructor
  · intro read
    obtain ⟨⟨w, rest⟩, value, finished⟩ := bind_eq_ok.mp read
    dsimp only at finished
    split at finished
    next nothing =>
      cases finished
      exact ⟨rest, value, skipSpace_eq_nil.mp nothing⟩
    next => cases finished
  · rintro ⟨rest, rfl, blank⟩
    simp only [readEnd, ok_bind, skipSpace_eq_nil.mpr blank]

/-- The text spells the document, which keeps to the limits of the reader. -/
structure Document.Readable (d : Document) (input : List Char) : Prop where
  spelled : d.SpelledBy input
  within : d.Within readerLimits depthLimit

/-- The reader accepts the documents of the grammar that keep to its limits, and no other text. -/
theorem read_eq_ok {v : Json} :
    read input = .ok v ↔ ∃ d : Document, d.Readable input ∧ d.value = v := by
  constructor
  · intro read
    obtain ⟨rest, read, after⟩ := readEnd_eq_ok.mp read
    obtain ⟨b, d, s, before, rfl, spelled, within, value⟩ := (read_of_parts _).1 read
    exact ⟨d, ⟨.intro before spelled after, within⟩, value⟩
  · rintro ⟨d, ⟨⟨before, spelled, after⟩, within⟩, rfl⟩
    apply readEnd_eq_ok.mpr
    refine ⟨_, ?_, after⟩
    refine readAs_of_spells spelled within (by simp; omega) ?_ ?_
    · simpa using stops_blank_append after stops_nil
    · rw [skipSpace_append before, skipSpace_spelled spelled]

end Json
end FeatureScan
