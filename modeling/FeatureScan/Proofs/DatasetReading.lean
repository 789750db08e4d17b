import FeatureScan.Dataset.Reader
import FeatureScan.JsonForm
import FeatureScan.Proofs.Json.Readable
import FeatureScan.Proofs.Text.Pieces
import Mathlib.Data.List.Dedup

/-!
Loading a dataset. A text is a dataset if it spells a JSON object in which the last member of each
name is a flag or null. The flags of the dataset are those last members, so a name that has
nothing but nulls is as good as none.
-/

namespace FeatureScan

open Json (Blank Characters Document Limits Mark Spells blank_nil characters_plain depthLimit
  lookupEntry_eq_none lookupEntry_eq_some_of_mem readerLimits)

section

variable {α β : Type} {entries entries' : List (String × α)}

theorem OrderedEntries.distinct (ordered : OrderedEntries entries) :
    (entries.map Prod.fst).Nodup := by
  rw [List.Nodup, List.pairwise_map]
  exact ordered.imp fun {a b} before => Std.ne_of_lt before

theorem mem_of_lookupEntry {key : String} {value : α} (found : lookupEntry key entries = some value) :
    (key, value) ∈ entries := by
  induction entries with
  | nil => cases found
  | cons e rest ih =>
      rw [lookupEntry] at found
      split at found
      next same =>
        cases found
        exact same ▸ List.mem_cons_self
      next => exact List.mem_cons_of_mem e (ih found)

theorem mem_iff_lookupEntry (ordered : OrderedEntries entries) {e : String × α} :
    e ∈ entries ↔ lookupEntry e.1 entries = some e.2 :=
  ⟨lookupEntry_eq_some_of_mem ordered.distinct, mem_of_lookupEntry⟩

/-- Ordered entries are known by what is found in them. -/
theorem OrderedEntries.eq_of_lookup (ordered : OrderedEntries entries)
    (ordered' : OrderedEntries entries')
    (same : ∀ key, lookupEntry key entries = lookupEntry key entries') : entries = entries' := by
  have perm : entries.Perm entries' := by
    have split := List.perm_ext_iff_of_nodup ordered.distinct.of_map ordered'.distinct.of_map
    refine split.mpr fun e => ?_
    rw [mem_iff_lookupEntry ordered, mem_iff_lookupEntry ordered', same]
  refine perm.eq_of_pairwise (fun _ _ _ _ before after => ?_) ordered ordered'
  exact absurd after (String.lt_asymm before)

theorem lookupEntry_map (f : α → β) (key : String) :
    lookupEntry key (entries.map fun e => (e.1, f e.2)) = (lookupEntry key entries).map f := by
  induction entries with
  | nil => rfl
  | cons e rest ih =>
      simp only [List.map_cons, lookupEntry, ih]
      split <;> rfl

end

namespace Dataset

theorem eq_of_flags {d d' : Dataset} (same : ∀ name, d.flag? name = d'.flag? name) : d = d' := by
  obtain ⟨entries, ordered⟩ := d
  obtain ⟨entries', ordered'⟩ := d'
  cases ordered.eq_of_lookup ordered' same
  rfl

/-- Flags one identifier, or takes its flag away. -/
def put (d : Dictionary Bool) (e : String × Option Bool) : Dictionary Bool :=
  match e.2 with
  | some flag => d.insert e.1 flag
  | none => d.erase e.1

theorem get?_put (d : Dictionary Bool) (e : String × Option Bool) (name : String) :
    (put d e).get? name = if e.1 = name then e.2 else d.get? name := by
  rw [put]
  split
  next flag same => rw [Dictionary.get?_insert, same]
  next same => rw [Dictionary.get?_erase, same]

theorem get?_foldl_put {flags : List (String × Option Bool)}
    (distinct : (flags.map Prod.fst).Nodup) (d : Dictionary Bool) (name : String) :
    (flags.foldl put d).get? name = (lookupEntry name flags).getD (d.get? name) := by
  induction flags generalizing d with
  | nil => rfl
  | cons e rest ih =>
      rw [List.map_cons, List.nodup_cons] at distinct
      rw [List.foldl_cons, ih distinct.2, get?_put]
      by_cases same : e.1 = name
      · rw [← same, lookupEntry_eq_none distinct.1]
        simp [lookupEntry]
      · simp [lookupEntry, same]

theorem flag?_ofFlags {flags : List (String × Option Bool)} (distinct : (flags.map Prod.fst).Nodup)
    (name : String) : (ofFlags flags).flag? name = (lookupEntry name flags).join := by
  refine (get?_foldl_put distinct .empty name).trans ?_
  cases lookupEntry name flags <;> rfl

/-- A value that a member may have. -/
def IsFlag (v : Json) : Prop := v = .null ∨ ∃ b, v = .bool b

theorem flagsOf_cons {v : Json} (flag : IsFlag v) (name : String) (rest : List (String × Json)) :
    flagsOf ((name, v) :: rest) = (flagsOf rest).map ((name, v.asBool?) :: ·) := by
  obtain rfl | ⟨b, rfl⟩ := flag
  · cases h : flagsOf rest <;> simp [flagsOf, Json.Shape.take, h, Json.asBool?, Except.map]
  · cases h : flagsOf rest <;> simp [flagsOf, Json.Shape.take, h, Json.asBool?, Except.map]

theorem flagsOf_of_flags {members : List (String × Json)} (flags : ∀ m ∈ members, IsFlag m.2) :
    flagsOf members = .ok (members.map fun m => (m.1, m.2.asBool?)) := by
  induction members with
  | nil => rfl
  | cons m rest ih =>
      obtain ⟨first, others⟩ := List.forall_mem_cons.mp flags
      rw [flagsOf_cons first, ih others]
      rfl

/-- The first bad member ends the reading. -/
theorem flags_of_flagsOf {members : List (String × Json)} {flags : List (String × Option Bool)}
    (read : flagsOf members = .ok flags) : ∀ m ∈ members, IsFlag m.2 := by
  induction members generalizing flags with
  | nil => exact nofun
  | cons m rest ih =>
      obtain ⟨name, v⟩ := m
      have flag : IsFlag v := by
        cases v with
        | null => exact .inl rfl
        | bool b => exact .inr ⟨b, rfl⟩
        | number | text | list | object => cases read
      rw [flagsOf_cons flag, map_eq_ok] at read
      obtain ⟨_, others, _⟩ := read
      exact List.forall_mem_cons.mpr ⟨flag, ih others⟩

variable {members : List (List Mark × Document)}

/-- What the last member of this name holds. -/
def last? (name : String) (members : List (List Mark × Document)) : Option Document :=
  (members.reverse.find? fun m => Mark.text m.1 == name).map Prod.snd

theorem last?_cons (name : String) (m : List Mark × Document) :
    last? name (m :: members) =
      (last? name members).or (if Mark.text m.1 = name then some m.2 else none) := by
  rw [last?, last?, List.reverse_cons, List.find?_append]
  cases List.find? (fun m => Mark.text m.1 == name) members.reverse with
  | some => rfl
  | none => by_cases same : Mark.text m.1 = name <;> simp [same]

theorem lookupEntry_entries (name : String) (kept : List (String × Json)) :
    lookupEntry name (Document.entries kept members) =
      ((last? name members).map Document.value).or (lookupEntry name kept) := by
  induction members generalizing kept with
  | nil => rfl
  | cons m rest ih =>
      rw [Document.entries, ih, lookupEntry_insertEntry, last?_cons]
      cases last? name rest with
      | some => rfl
      | none => by_cases same : Mark.text m.1 = name <;> simp [same]

theorem ordered_entries {kept : List (String × Json)} (ordered : OrderedEntries kept) :
    OrderedEntries (Document.entries kept members) := by
  induction members generalizing kept with
  | nil => exact ordered
  | cons m rest ih => exact ih (orderedEntries_insertEntry _ _ ordered)

def flagOf : Document → Option Bool
  | .bool b => some b
  | _ => none

/-- The flag in the last member of this name. -/
def lastFlag? (name : String) (members : List (List Mark × Document)) : Option Bool :=
  (last? name members).bind flagOf

/-- The last member of every name holds a flag or null. -/
def FlagsOnly (members : List (List Mark × Document)) : Prop :=
  ∀ name d, last? name members = some d → d = .null ∨ ∃ b, d = .bool b

/-- The names whose last member is not null. -/
def flaggedNames (members : List (List Mark × Document)) : List String :=
  (members.map fun m => Mark.text m.1).dedup.filter fun name =>
    (last? name members).any fun
      | .null => false
      | _ => true

theorem isFlag_value {d : Document} : IsFlag d.value ↔ d = .null ∨ ∃ b, d = .bool b := by
  cases d <;> simp [IsFlag, Document.value]

theorem asBool?_value (d : Document) : d.value.asBool? = flagOf d := by
  cases d <;> simp [Document.value, Json.asBool?, flagOf]

theorem flagsOnly_iff : FlagsOnly members ↔ ∀ e ∈ Document.entries [] members, IsFlag e.2 := by
  have found : ∀ name v, (name, v) ∈ Document.entries [] members ↔
      (last? name members).map Document.value = some v := by
    intro name v
    rw [mem_iff_lookupEntry (ordered_entries List.Pairwise.nil), lookupEntry_entries]
    simp [lookupEntry]
  constructor
  · rintro only ⟨name, v⟩ mem
    obtain ⟨d, last, rfl⟩ := Option.map_eq_some_iff.mp ((found name v).mp mem)
    exact isFlag_value.mpr (only name d last)
  · intro all name d last
    exact isFlag_value.mp (all (name, d.value) ((found name d.value).mpr (last ▸ rfl)))

/-- The dataset of an object. -/
def ofMembers (members : List (List Mark × Document)) : Dataset :=
  ofFlags ((Document.entries [] members).map fun e => (e.1, e.2.asBool?))

theorem flag?_ofMembers (members : List (List Mark × Document)) (name : String) :
    (ofMembers members).flag? name = lastFlag? name members := by
  rw [ofMembers, flag?_ofFlags, lookupEntry_map, lookupEntry_entries, lastFlag?]
  · cases last? name members <;> simp [lookupEntry, asBool?_value]
  · rw [List.map_map]
    exact (ordered_entries List.Pairwise.nil).distinct

section

variable {text : String} (readable : (Document.object members).Readable text.toList)
include readable

theorem read_of_flags (only : FlagsOnly members) : read text = .ok (ofMembers members) := by
  rw [read, Json.read_eq_ok.mpr ⟨_, readable, rfl⟩]
  simp only [Document.value, flagsOf_of_flags (flagsOnly_iff.mp only), ofMembers]

theorem fault_of_other (other : ¬ FlagsOnly members) :
    ∃ message, read text = .error (.dataset ("invalid feature flags: " ++ message)) := by
  rw [read, Json.read_eq_ok.mpr ⟨_, readable, rfl⟩]
  cases taken : flagsOf (Document.entries [] members) with
  | error message => exact ⟨message, by simp only [Document.value, taken]⟩
  | ok flags => exact absurd (flagsOnly_iff.mpr (flags_of_flagsOf taken)) other

theorem read_object (d : Dataset) :
    read text = .ok d ↔ FlagsOnly members ∧ ∀ name, d.flag? name = lastFlag? name members := by
  by_cases only : FlagsOnly members
  · rw [read_of_flags readable only, Except.ok.injEq]
    constructor
    · rintro rfl
      exact ⟨only, flag?_ofMembers members⟩
    · rintro ⟨_, flags⟩
      exact eq_of_flags fun name => (flag?_ofMembers members name).trans (flags name).symm
  · obtain ⟨message, refused⟩ := fault_of_other readable only
    simp [refused, only]

end

theorem exists_readable_of_read {text : String} {d : Dataset} (loaded : read text = .ok d) :
    ∃ members, (Document.object members).Readable text.toList ∧ FlagsOnly members := by
  cases json : Json.read text.toList with
  | error => simp [read, json] at loaded
  | ok v =>
      obtain ⟨doc, readable, rfl⟩ := Json.read_eq_ok.mp json
      cases doc with
      | object members => exact ⟨members, readable, ((read_object readable d).mp loaded).1⟩
      | null | bool | number | text | list => simp [read, json, Document.value] at loaded

theorem mem_keys (d : Dataset) (name : String) :
    name ∈ d.flags.keys ↔ (d.flag? name).isSome = true := by
  rw [Dictionary.keys, List.mem_map, flag?, Dictionary.get?, Option.isSome_iff_exists]
  constructor
  · rintro ⟨e, mem, rfl⟩
    exact ⟨e.2, (mem_iff_lookupEntry d.flags.ordered).mp mem⟩
  · rintro ⟨flag, found⟩
    exact ⟨_, mem_of_lookupEntry found, rfl⟩

theorem last?_eq_none {name : String} :
    last? name members = none ↔ name ∉ members.map fun m => Mark.text m.1 := by
  rw [last?, Option.map_eq_none_iff, List.find?_eq_none]
  simp

theorem mem_flaggedNames (only : FlagsOnly members) (name : String) :
    name ∈ flaggedNames members ↔ (lastFlag? name members).isSome = true := by
  rw [flaggedNames, List.mem_filter, List.mem_dedup, lastFlag?]
  cases last : last? name members with
  | none => simp
  | some d =>
      have listed : name ∈ members.map fun m => Mark.text m.1 := by
        by_contra absent
        cases last.symm.trans (last?_eq_none.mpr absent)
      obtain rfl | ⟨b, rfl⟩ := only name d last
      · simp [flagOf]
      · simpa [flagOf] using listed

theorem size_eq_length {d : Dataset} (only : FlagsOnly members)
    (flags : ∀ name, d.flag? name = lastFlag? name members) :
    d.size = (flaggedNames members).length := by
  have perm : d.flags.keys.Perm (flaggedNames members) := by
    refine (List.perm_ext_iff_of_nodup d.flags.ordered.distinct ?_).mpr fun name => ?_
    · exact (List.nodup_dedup _).filter _
    · exact (mem_keys d name).trans (flags name ▸ (mem_flaggedNames only name).symm)
  rw [size, Dictionary.size, ← perm.length_eq, Dictionary.keys, List.length_map]

/-- The members without those of the idle names. -/
def without (idle : String → Bool) (members : List (List Mark × Document)) :
    List (List Mark × Document) := members.filter fun m => !idle (Mark.text m.1)

theorem last?_without (idle : String → Bool) (name : String) :
    last? name (without idle members) = if idle name then none else last? name members := by
  induction members with
  | nil => simp [without, last?]
  | cons m rest ih =>
      rw [without] at ih ⊢
      cases idler : idle (Mark.text m.1) with
      | true =>
          rw [List.filter_cons_of_neg (by simp [idler]), ih, last?_cons]
          by_cases same : Mark.text m.1 = name
          · simp [same ▸ idler]
          · simp [same]
      | false =>
          rw [List.filter_cons_of_pos (by simp [idler]), last?_cons, ih, last?_cons]
          by_cases same : Mark.text m.1 = name
          · simp [same ▸ idler]
          · simp [same]

theorem mem_of_last? {name : String} {d : Document} (last : last? name members = some d) :
    ∃ m ∈ members, Mark.text m.1 = name ∧ m.2 = d := by
  obtain ⟨m, found, rfl⟩ := Option.map_eq_some_iff.mp last
  refine ⟨m, List.mem_reverse.mp (List.mem_of_find?_eq_some found), ?_, rfl⟩
  simpa using List.find?_some found

section

variable {idle : String → Bool}
  (nulls : ∀ m ∈ members, idle (Mark.text m.1) = true → m.2 = .null)
include nulls

theorem null_of_last? {name : String} (idler : idle name = true) {d : Document}
    (last : last? name members = some d) : d = .null := by
  obtain ⟨m, mem, rfl, rfl⟩ := mem_of_last? last
  exact nulls m mem idler

theorem lastFlag?_without (name : String) :
    lastFlag? name (without idle members) = lastFlag? name members := by
  rw [lastFlag?, lastFlag?, last?_without]
  split
  next idler =>
    cases last : last? name members with
    | none => rfl
    | some d => rw [null_of_last? nulls idler last]; rfl
  next => rfl

theorem flagsOnly_without : FlagsOnly (without idle members) ↔ FlagsOnly members := by
  constructor
  · intro only name d last
    cases idler : idle name with
    | true => exact .inl (null_of_last? nulls idler last)
    | false => exact only name d (by rw [last?_without, idler]; exact last)
  · intro only name d last
    rw [last?_without] at last
    split at last
    next => cases last
    next => exact only name d last

end

theorem fault_of_unreadable {text : String}
    (unreadable : ¬ ∃ d : Document, d.Readable text.toList) :
    ∃ problem, read text = .error (.json ⟨problem, text⟩) := by
  cases json : Json.read text.toList with
  | error problem => exact ⟨problem, by rw [read, json]⟩
  | ok v =>
      obtain ⟨d, readable, _⟩ := Json.read_eq_ok.mp json
      exact absurd ⟨d, readable⟩ unreadable

theorem fault_of_no_object {text : String} {d : Document} (readable : d.Readable text.toList)
    (other : ∀ members, d ≠ .object members) :
    read text = .error (.dataset "expected a JSON object of feature flags") := by
  rw [read, Json.read_eq_ok.mpr ⟨d, readable, rfl⟩]
  cases d with
  | object members => exact absurd rfl (other members)
  | null | bool | number | text | list => simp only [Document.value]

/-- A dataset is loaded from exactly the readable objects whose last members are flags or nulls.
Its flags are theirs, and members of names that have nothing but nulls make no difference. A text
that is not readable is refused as JSON, and anything else as a dataset. -/
theorem read_tri_state (text : String) :
    ((∃ d, read text = .ok d) ↔
      ∃ members, (Document.object members).Readable text.toList ∧ FlagsOnly members) ∧
    (∀ d members, read text = .ok d → (Document.object members).Readable text.toList →
      (∀ name, d.flag? name = lastFlag? name members) ∧ d.size = (flaggedNames members).length) ∧
    (∀ members idle text', (Document.object members).Readable text.toList →
      (∀ m ∈ members, idle (Mark.text m.1) = true → m.2 = .null) →
      (Document.object (without idle members)).Readable text'.toList →
      ∀ d, read text = .ok d ↔ read text' = .ok d) ∧
    ((¬ ∃ d : Document, d.Readable text.toList) →
      ∃ problem, read text = .error (.json ⟨problem, text⟩)) ∧
    (∀ d : Document, d.Readable text.toList → (∀ members, d ≠ .object members) →
      read text = .error (.dataset "expected a JSON object of feature flags")) ∧
    ∀ members, (Document.object members).Readable text.toList → ¬ FlagsOnly members →
      ∃ message, read text = .error (.dataset ("invalid feature flags: " ++ message)) := by
  refine ⟨⟨?_, ?_⟩, ?_, ?_, fault_of_unreadable, fun _ => fault_of_no_object, fun _ => fault_of_other⟩
  · rintro ⟨d, loaded⟩
    exact exists_readable_of_read loaded
  · rintro ⟨members, readable, only⟩
    exact ⟨_, read_of_flags readable only⟩
  · intro d members loaded readable
    obtain ⟨only, flags⟩ := (read_object readable d).mp loaded
    exact ⟨flags, size_eq_length only flags⟩
  · intro members idle text' readable nulls readable' d
    rw [read_object readable, read_object readable', flagsOnly_without nulls]
    simp only [lastFlag?_without nulls]

/-- The name that the examples use. -/
def grid : List Mark := ['g', 'r', 'i', 'd'].map .char

theorem characters_grid : Characters grid ['g', 'r', 'i', 'd'] := characters_plain (by simp)

/-- One name twice, and a null between. -/
def twice : List (List Mark × Document) :=
  [(grid, .bool false), (['g', 'a', 'p'].map .char, .null), (grid, .bool true)]

theorem readable_twice : (Document.object twice).Readable
    "\x7b\"grid\":false,\"gap\":null,\"\\u0067rid\":true\x7d".toList := by
  have gap : Characters (['g', 'a', 'p'].map .char) ['g', 'a', 'p'] := characters_plain (by simp)
  have escaped : Characters grid ['\\', 'u', '0', '0', '6', '7', 'r', 'i', 'd'] :=
    .code (.digits rfl rfl rfl rfl) rfl (characters_plain (s := ['r', 'i', 'd']) (by simp))
  have members := Spells.members blank_nil (.member characters_grid blank_nil blank_nil .false)
    blank_nil (.members blank_nil (.member gap blank_nil blank_nil .null) blank_nil
      (.lastMember blank_nil (.member escaped blank_nil blank_nil .true) blank_nil))
  simp only [Text.toList_literal]
  refine ⟨.intro blank_nil (.object members) blank_nil, .object ?_ ?_⟩
  · simp [twice, grid, readerLimits, Mark.join?]
  · simp only [twice, List.forall_mem_cons]
    exact ⟨.bool, .null, .bool, List.forall_mem_nil _⟩

theorem flagsOnly_twice : FlagsOnly twice := by
  have kept : Document.entries [] twice = [("gap", .null), ("grid", .bool true)] := rfl
  simp [flagsOnly_iff, kept, IsFlag]

theorem read_twice :
    ∃ d, read "\x7b\"grid\":false,\"gap\":null,\"\\u0067rid\":true\x7d" = .ok d ∧
      d.flag? "grid" = some true ∧ d.flag? "gap" = none ∧ d.size = 1 := by
  obtain ⟨succeeds, tells, _⟩ :=
    read_tri_state "\x7b\"grid\":false,\"gap\":null,\"\\u0067rid\":true\x7d"
  obtain ⟨d, loaded⟩ := succeeds.mpr ⟨twice, readable_twice, flagsOnly_twice⟩
  obtain ⟨flags, size⟩ := tells d twice loaded readable_twice
  refine ⟨d, loaded, ?_, ?_, ?_⟩
  · rw [flags]
    decide +kernel
  · rw [flags]
    decide +kernel
  · rw [size]
    decide +kernel

/-- The limits of the reader on numbers alone. -/
def numberLimits : Limits := { readerLimits with text := fun _ => True }

/-- Half of a surrogate pair in a member that a later one takes the place of. -/
def halved : List (List Mark × Document) := [(grid, .text [.half 0xd800]), (grid, .bool true)]

theorem spelled_halved : (Document.object halved).SpelledBy
    "\x7b\"grid\": \"\\ud800\", \"grid\": true\x7d".toList := by
  have space : Blank [' '] := by simp [Blank, Json.isSpace]
  have half : Characters [.half 0xd800] ['\\', 'u', 'd', '8', '0', '0'] :=
    .code (.digits rfl rfl rfl rfl) rfl .nil
  have members := Spells.members blank_nil (.member characters_grid blank_nil space (.text half))
    blank_nil (.lastMember space (.member characters_grid blank_nil space .true) blank_nil)
  simp only [Text.toList_literal]
  exact .intro blank_nil (.object members) blank_nil

theorem flagsOnly_halved : FlagsOnly halved := by
  have kept : Document.entries [] halved = [("grid", .bool true)] := rfl
  simp [flagsOnly_iff, kept, IsFlag]

theorem within_halved : (Document.object halved).Within numberLimits depthLimit := by
  refine .object (fun _ _ => trivial) ?_
  simp only [halved, List.forall_mem_cons]
  exact ⟨.text trivial, .bool, List.forall_mem_nil _⟩

/-- Half of a surrogate pair is in the grammar of JSON and is not read. -/
theorem halved_refused :
    ((Document.object halved).SpelledBy
        "\x7b\"grid\": \"\\ud800\", \"grid\": true\x7d".toList ∧
      (Document.object halved).Within numberLimits depthLimit ∧ FlagsOnly halved) ∧
    ¬ ∃ d, read "\x7b\"grid\": \"\\ud800\", \"grid\": true\x7d" = .ok d := by
  refine ⟨⟨spelled_halved, within_halved, flagsOnly_halved⟩, ?_⟩
  rintro ⟨d, loaded⟩
  have refused : (read "\x7b\"grid\": \"\\ud800\", \"grid\": true\x7d").toOption = none := by
    decide +kernel
  rw [loaded] at refused
  cases refused

end Dataset
end FeatureScan
