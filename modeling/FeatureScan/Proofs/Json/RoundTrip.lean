import FeatureScan.Proofs.Json.Admits
import FeatureScan.Proofs.Json.Scalars

/-!
A value of a shape is read back from what is written for it, in either layout and with
anything behind it that does not continue a number.
-/

namespace FeatureScan
namespace Json

/-- Characters that a written value may begin with: none that a list or an object has
between its parts. -/
def Opening (c : Char) : Prop := isSpace c = false ∧ c ≠ ',' ∧ c ≠ ']' ∧ c ≠ '\x7d'

instance (c : Char) : Decidable (Opening c) := inferInstanceAs (Decidable (_ ∧ _ ∧ _ ∧ _))

/-- The reader takes exactly what is written for the value. -/
structure ReadsBack (reader : TextReader) (v : Json) : Prop where
  opening : ∀ layout, ∃ c tail, v.write layout = c :: tail ∧ Opening c ∧ (c = 'n' → v = .null)
  read : ∀ layout input rest, Stops rest → skipSpace input = v.write layout ++ rest →
    reader input = .ok (v, rest)

theorem skipSpace_lineBreak_append (layout : Layout) (rest : List Char) :
    skipSpace (layout.lineBreak ++ rest) = skipSpace rest :=
  skipSpace_append isSpace_of_mem_lineBreak rest

/-- A written value on its line: where it begins, and that it is read from there. -/
theorem ReadsBack.item {reader : TextReader} {v : Json} (back : ReadsBack reader v)
    (layout : Layout) {more : List Char} (stop : Stops more) :
    ∃ c tail, skipSpace (layout.lineBreak ++ (v.write layout ++ more)) = c :: tail ∧ Opening c ∧
      reader (c :: tail) = .ok (v, more) := by
  obtain ⟨c, tail, hw, opening, _⟩ := back.opening layout
  have start : skipSpace (c :: (tail ++ more)) = v.write layout ++ more := by
    rw [skipSpace_of_not_space opening.1, hw, List.cons_append]
  refine ⟨c, tail ++ more, ?_, opening, back.read layout _ more stop start⟩
  rw [skipSpace_lineBreak_append, hw, List.cons_append, skipSpace_of_not_space opening.1]

theorem nextItem_close {first : Bool} {input rest : List Char}
    (h : skipSpace input = ']' :: rest) : nextItem first input = .ok none := by
  rw [nextItem, h]
  rfl

theorem nextItem_first {input tail : List Char} {c : Char} (h : skipSpace input = c :: tail)
    (opening : Opening c) : nextItem true input = .ok (some (c :: tail)) := by
  obtain ⟨_, comma, bracket, _⟩ := opening
  rw [nextItem, h]
  split
  next nothing => cases nothing
  next same => exact absurd (List.cons.inj same).1 bracket
  next same => exact absurd (List.cons.inj same).1 comma
  next => rfl

theorem nextItem_more {input after tail : List Char} {c : Char}
    (h : skipSpace input = ',' :: after) (start : skipSpace after = c :: tail)
    (opening : Opening c) : nextItem false input = .ok (some (c :: tail)) := by
  obtain ⟨_, _, bracket, _⟩ := opening
  simp only [nextItem, h, start, Bool.false_eq_true, if_false]
  split
  next nothing => cases nothing
  next same => exact absurd (List.cons.inj same).1 bracket
  next => rfl

theorem nextMember_close {first : Bool} {input rest : List Char}
    (h : skipSpace input = '\x7d' :: rest) : nextMember first input = .ok none := by
  simp only [nextMember, h]

theorem nextMember_first {input tail : List Char} (h : skipSpace input = '"' :: tail) :
    nextMember true input = .ok (some tail) := by
  simp only [nextMember, h, if_true]
  rfl

theorem nextMember_more {input after tail : List Char} (h : skipSpace input = ',' :: after)
    (start : skipSpace after = '"' :: tail) : nextMember false input = .ok (some tail) := by
  simp only [nextMember, h, start, Bool.false_eq_true, if_false]
  rfl

theorem readColon_colon (layout : Layout) (rest : List Char) :
    ∃ after, readColon (layout.colon ++ rest) = .ok ((), after) ∧
      skipSpace after = skipSpace rest := by
  cases layout with
  | compact => exact ⟨rest, rfl, rfl⟩
  | lines level => exact ⟨' ' :: rest, rfl, rfl⟩

theorem stops_writeItems (layout inner : Layout) (items : List Json) (rest : List Char) :
    Stops (writeItems inner items ++ (layout.lineBreak ++ ']' :: rest)) := by
  cases items with
  | nil => exact stops_lineBreak_append (stops_cons (by decide) rest)
  | cons i items => exact stops_cons (by decide) _

theorem length_le_length_writeItems (layout : Layout) (items : List Json) :
    items.length ≤ (writeItems layout items).length := by
  induction items with
  | nil => exact Nat.le_refl _
  | cons i items ih =>
      simp only [writeItems, List.length_cons, List.length_append]
      omega

/-- The items after the first one and the closing bracket; the fuel counts them. -/
theorem readItemsWith_writeItems {reader : TextReader} {items : List Json}
    (each : ∀ i ∈ items, ReadsBack reader i) (layout inner : Layout) {fuel : Nat}
    (enough : items.length < fuel) (taken : List Json) (rest : List Char) :
    readItemsWith reader fuel false taken
        (writeItems inner items ++ (layout.lineBreak ++ ']' :: rest)) =
      .ok (.list (taken.reverse ++ items), rest) := by
  induction items generalizing fuel taken with
  | nil =>
      obtain ⟨fuel, rfl⟩ := Nat.exists_eq_succ_of_ne_zero (Nat.ne_of_gt enough)
      have close : skipSpace (layout.lineBreak ++ ']' :: rest) = ']' :: rest := by
        rw [skipSpace_lineBreak_append]
        rfl
      simp [readItemsWith, writeItems, nextItem_close close, close]
  | cons i items ih =>
      obtain ⟨fuel, rfl⟩ := Nat.exists_eq_succ_of_ne_zero (Nat.ne_of_gt (Nat.zero_lt_of_lt enough))
      have others := ih (fun j hj => each j (List.mem_cons_of_mem i hj))
        (Nat.lt_of_succ_lt_succ enough) (i :: taken)
      let more := writeItems inner items ++ (layout.lineBreak ++ ']' :: rest)
      obtain ⟨c, tail, start, opening, read⟩ := (each i List.mem_cons_self).item inner
        (stops_writeItems layout inner items rest)
      have split : writeItems inner (i :: items) ++ (layout.lineBreak ++ ']' :: rest) =
          ',' :: (inner.lineBreak ++ (i.write inner ++ more)) := by
        simp [writeItems, more]
      rw [split, readItemsWith, nextItem_more rfl start opening]
      simp only [ok_bind, read]
      rw [others]
      simp

theorem readsBack_list {reader : TextReader} {items : List Json}
    (each : ∀ i ∈ items, ReadsBack reader i) : ReadsBack (readListWith reader) (.list items) where
  opening := by
    intro layout
    cases items with
    | nil => exact ⟨'[', _, rfl, by decide, fun h => nomatch h⟩
    | cons i items =>
        exact ⟨'[', _, rfl, by decide, fun h => nomatch h⟩
  read := by
    intro layout input rest stop start
    cases items with
    | nil =>
        rw [readListWith, start]
        simp only [write, List.cons_append, List.nil_append]
        have close : skipSpace (']' :: rest) = ']' :: rest := rfl
        rw [readItemsWith, nextItem_close close]
        rfl
    | cons i items =>
        let more := writeItems layout.inner items ++ (layout.lineBreak ++ ']' :: rest)
        obtain ⟨c, tail, begins, opening, read⟩ := (each i List.mem_cons_self).item layout.inner
          (stops_writeItems layout layout.inner items rest)
        have split : (Json.list (i :: items)).write layout ++ rest =
            '[' :: (layout.inner.lineBreak ++ (i.write layout.inner ++ more)) := by
          simp [write, more]
        have enough : items.length <
            (layout.inner.lineBreak ++ (i.write layout.inner ++ more)).length := by
          have := length_le_length_writeItems layout.inner items
          simp only [more, List.length_append, List.length_cons]
          omega
        rw [readListWith, start, split]
        simp only
        rw [readItemsWith, nextItem_first begins opening]
        simp only [ok_bind, read]
        exact readItemsWith_writeItems (fun j hj => each j (List.mem_cons_of_mem i hj)) layout
          layout.inner enough [i] rest

theorem lookupEntry_eq_some_of_mem {α : Type} {entries : List (String × α)}
    (distinct : (entries.map Prod.fst).Nodup) {name : String} {v : α} (mem : (name, v) ∈ entries) :
    lookupEntry name entries = some v := by
  induction entries with
  | nil => cases mem
  | cons e entries ih =>
      rw [List.map_cons, List.nodup_cons] at distinct
      rcases List.mem_cons.mp mem with rfl | mem
      · exact if_pos rfl
      · have ne : e.1 ≠ name := fun same => distinct.1 (same ▸ List.mem_map_of_mem mem)
        exact (if_neg ne).trans (ih distinct.2 mem)

theorem lookupEntry_eq_none {α : Type} {entries : List (String × α)} {name : String}
    (new : name ∉ entries.map Prod.fst) : lookupEntry name entries = none := by
  induction entries with
  | nil => rfl
  | cons e entries ih =>
      rw [List.map_cons, List.mem_cons, not_or] at new
      exact (if_neg (Ne.symm new.1)).trans (ih new.2)

theorem map_fst_of_admitsFields {fields : List (String × Shape)} {members : List (String × Json)}
    (h : Shape.AdmitsFields fields members) : members.map Prod.fst = fields.map Prod.fst := by
  induction fields generalizing members with
  | nil =>
      cases h
      rfl
  | cons f fields ih =>
      obtain ⟨v, others, _, ho, rfl⟩ := h
      rw [List.map_cons, List.map_cons, ih ho]

theorem field_of_mem_members {fields : List (String × Shape)} {members : List (String × Json)}
    (h : Shape.AdmitsFields fields members) :
    ∀ m ∈ members, ∃ f ∈ fields, f.1 = m.1 ∧ f.2.Admits m.2 := by
  induction fields generalizing members with
  | nil =>
      cases h
      simp
  | cons f fields ih =>
      obtain ⟨v, others, hv, ho, rfl⟩ := h
      intro m hm
      rcases List.mem_cons.mp hm with rfl | hm
      · exact ⟨f, List.mem_cons_self, rfl, (Shape.admitsField_iff _ _).mp hv⟩
      · obtain ⟨g, hg, name, admits⟩ := ih ho m hm
        exact ⟨g, List.mem_cons_of_mem f hg, name, admits⟩

/-- Whatever the order in which they were given, the members are put in that of the fields. -/
theorem assemble_eq_ok {fields : List (String × Shape)} {given members : List (String × Json)}
    (h : Shape.AdmitsFields fields members)
    (all : ∀ m ∈ members, lookupEntry m.1 given = some m.2) :
    assemble given (Shape.readFields fields) = .ok members := by
  induction fields generalizing members with
  | nil =>
      cases h
      rfl
  | cons f fields ih =>
      obtain ⟨v, others, _, ho, rfl⟩ := h
      rw [Shape.readFields, assemble_cons_eq_ok]
      refine ⟨v, others, Or.inl ?_, ih ho fun m hm => all m (List.mem_cons_of_mem _ hm), ?_⟩
      · rw [Shape.readField_name]
        exact all (f.1, v) List.mem_cons_self
      · rw [Shape.readField_name]

theorem stops_writeMembers (layout inner : Layout) (members : List (String × Json))
    (rest : List Char) : Stops (writeMembers inner members ++ (layout.lineBreak ++ '\x7d' :: rest)) := by
  cases members with
  | nil => exact stops_lineBreak_append (stops_cons (by decide) rest)
  | cons m members => exact stops_cons (by decide) _

theorem length_le_length_writeMembers (layout : Layout) (members : List (String × Json)) :
    members.length ≤ (writeMembers layout members).length := by
  induction members with
  | nil => exact Nat.le_refl _
  | cons m members ih =>
      simp only [writeMembers, List.length_cons, List.length_append]
      omega

section Members

variable {fields : List (String × Shape)} (distinct : (fields.map Prod.fst).Nodup)
include distinct

theorem readFieldMembers_step {f : String × Shape} (mem : f ∈ fields) {v : Json}
    (back : ReadsBack f.2.read v) (layout : Layout) {fuel : Nat} {first : Bool}
    {given : List (String × Json)} (new : f.1 ∉ given.map Prod.fst) {input more : List Char}
    (stop : Stops more)
    (next : nextMember first input = .ok (some (f.1.toList.flatMap escapeChar ++
      '"' :: (layout.colon ++ (v.write layout ++ more))))) :
    readFieldMembers (Shape.readFields fields) (fuel + 1) first given input =
      readFieldMembers (Shape.readFields fields) fuel false ((f.1, v) :: given) more := by
  obtain ⟨after, colon, start⟩ := readColon_colon layout (v.write layout ++ more)
  obtain ⟨c, tail, hw, opening, _⟩ := back.opening layout
  have read : f.2.read after = .ok (v, more) := by
    refine back.read layout after more stop (start.trans ?_)
    rw [hw, List.cons_append, skipSpace_of_not_space opening.1]
  rw [readFieldMembers, next]
  simp only [ok_bind, readText_writeText, find?_readFields distinct mem, lookupEntry_eq_none new,
    Option.isSome_none, Bool.false_eq_true, if_false, colon, Shape.readField_read, read]

variable {members : List (String × Json)} (admitted : Shape.AdmitsFields fields members)
include admitted

theorem readFieldMembers_close {fuel : Nat} {first : Bool} {input rest : List Char}
    (close : skipSpace input = '\x7d' :: rest) :
    readFieldMembers (Shape.readFields fields) (fuel + 1) first members.reverse input =
      .ok (members, rest) := by
  have names : (members.reverse.map Prod.fst).Nodup := by
    rw [List.map_reverse, (List.reverse_perm _).nodup_iff, map_fst_of_admitsFields admitted]
    exact distinct
  have done : assemble members.reverse (Shape.readFields fields) = .ok members :=
    assemble_eq_ok admitted fun m hm =>
      lookupEntry_eq_some_of_mem names (List.mem_reverse.mpr hm)
  rw [readFieldMembers, nextMember_close close]
  simp only [ok_bind, done, close, List.drop_succ_cons, List.drop_zero]

variable (each : ∀ f ∈ fields, ∀ v, f.2.Admits v → ReadsBack f.2.read v)
include each

/-- The members after the first one and the closing brace; the fuel counts them. -/
theorem readFieldMembers_writeMembers (layout inner : Layout) (given todo : List (String × Json))
    (whole : members = given ++ todo) {fuel : Nat}
    (enough : todo.length < fuel) (rest : List Char) :
    readFieldMembers (Shape.readFields fields) fuel false given.reverse
        (writeMembers inner todo ++ (layout.lineBreak ++ '\x7d' :: rest)) =
      .ok (members, rest) := by
  induction todo generalizing given fuel with
  | nil =>
      obtain ⟨fuel, rfl⟩ := Nat.exists_eq_succ_of_ne_zero (Nat.ne_of_gt enough)
      rw [List.append_nil] at whole
      subst whole
      refine readFieldMembers_close distinct admitted ?_
      rw [writeMembers, List.nil_append, skipSpace_lineBreak_append]
      rfl
  | cons m todo ih =>
      obtain ⟨fuel, rfl⟩ := Nat.exists_eq_succ_of_ne_zero (Nat.ne_of_gt (Nat.zero_lt_of_lt enough))
      obtain ⟨f, hf, name, admits⟩ := field_of_mem_members admitted m (by simp [whole])
      have new : m.1 ∉ given.reverse.map Prod.fst := by
        have names : (members.map Prod.fst).Nodup :=
          map_fst_of_admitsFields admitted ▸ distinct
        rw [whole, List.map_append, List.map_cons, List.nodup_append] at names
        rw [List.map_reverse, List.mem_reverse]
        exact fun old => names.2.2 m.1 old m.1 List.mem_cons_self rfl
      let more := writeMembers inner todo ++ (layout.lineBreak ++ '\x7d' :: rest)
      have next : nextMember false
          (writeMembers inner (m :: todo) ++ (layout.lineBreak ++ '\x7d' :: rest)) =
          .ok (some (f.1.toList.flatMap escapeChar ++
            '"' :: (inner.colon ++ (m.2.write inner ++ more)))) := by
        have split : writeMembers inner (m :: todo) ++ (layout.lineBreak ++ '\x7d' :: rest) =
            ',' :: (inner.lineBreak ++
              (writeText m.1 ++ (inner.colon ++ (m.2.write inner ++ more)))) := by
          obtain ⟨name, v⟩ := m
          simp [writeMembers, writeMember, more]
        rw [split]
        refine nextMember_more rfl ?_
        rw [skipSpace_lineBreak_append, writeText_append, name]
        rfl
      rw [readFieldMembers_step distinct hf (each f hf m.2 admits) inner (name ▸ new)
        (stops_writeMembers layout inner todo rest) next]
      have step := ih (given ++ [m]) (by simp [whole]) (Nat.lt_of_succ_lt_succ enough)
      rw [List.reverse_append] at step
      rw [name]
      exact step

end Members

theorem readsBack_record {fields : List (String × Shape)} (name : String)
    (distinct : (fields.map Prod.fst).Nodup)
    (each : ∀ f ∈ fields, ∀ v, f.2.Admits v → ReadsBack f.2.read v)
    {members : List (String × Json)} (admitted : Shape.AdmitsFields fields members) :
    ReadsBack (readRecordWith name (Shape.readFields fields)) (.object members) where
  opening := by
    intro layout
    cases members with
    | nil =>
        exact ⟨'\x7b', _, rfl, by decide, fun h => nomatch h⟩
    | cons m members =>
        exact ⟨'\x7b', _, rfl, by decide, fun h => nomatch h⟩
  read := by
    intro layout input rest stop start
    cases members with
    | nil =>
        have closed : readFieldMembers (Shape.readFields fields) (('\x7d' :: rest).length + 1) true []
            ('\x7d' :: rest) = .ok ([], rest) :=
          readFieldMembers_close distinct admitted rfl
        rw [readRecordWith, start]
        simp only [write, List.cons_append, List.nil_append]
        rw [closed]
        rfl
    | cons m members =>
        obtain ⟨f, hf, same, admits⟩ := field_of_mem_members admitted m List.mem_cons_self
        let more := writeMembers layout.inner members ++ (layout.lineBreak ++ '\x7d' :: rest)
        let body := layout.inner.lineBreak ++
          (writeText m.1 ++ (layout.inner.colon ++ (m.2.write layout.inner ++ more)))
        have split : (Json.object (m :: members)).write layout ++ rest = '\x7b' :: body := by
          obtain ⟨name, v⟩ := m
          simp [write, writeMember, more, body]
        have next : nextMember true body =
            .ok (some (f.1.toList.flatMap escapeChar ++
              '"' :: (layout.inner.colon ++ (m.2.write layout.inner ++ more)))) := by
          refine nextMember_first ?_
          rw [skipSpace_lineBreak_append, writeText_append, same]
          rfl
        have enough : members.length < body.length := by
          have := length_le_length_writeMembers layout.inner members
          simp only [body, more, List.length_append, List.length_cons]
          omega
        rw [readRecordWith, start, split]
        simp only
        rw [readFieldMembers_step distinct hf (each f hf m.2 admits) layout.inner (by simp)
          (stops_writeMembers layout layout.inner members rest) next]
        have others := readFieldMembers_writeMembers distinct admitted each layout layout.inner
          [m] members rfl enough rest
        rw [same]
        exact congrArg (Except.map _) others

theorem write_text_append (layout : Layout) (s : String) (rest : List Char) :
    (Json.text s).write layout ++ rest = '"' :: (s.toList.flatMap escapeChar ++ '"' :: rest) := by
  rw [write, writeText_append]

theorem readTextAs_text {layout : Layout} {input rest : List Char} {s : String} (what : String)
    (start : skipSpace input = (Json.text s).write layout ++ rest) :
    readTextAs what input = .ok (s, rest) := by
  rw [write_text_append] at start
  rw [readTextAs, start]
  exact readText_writeText s rest

theorem opening_text (s : String) (layout : Layout) :
    ∃ c tail, (Json.text s).write layout = c :: tail ∧ Opening c ∧ (c = 'n' → Json.text s = .null) :=
  ⟨'"', _, rfl, by decide, fun h => nomatch h⟩

theorem readsBack_flag (b : Bool) : ReadsBack readFlag (.bool b) where
  opening := by
    intro layout
    cases b
    · exact ⟨'f', _, rfl, by decide, fun h => nomatch h⟩
    · exact ⟨'t', _, rfl, by decide, fun h => nomatch h⟩
  read := by
    intro layout input rest stop start
    rw [readFlag, start]
    cases b <;> rfl

theorem opening_digit {c : Char} (h : c.isDigit = true) : Opening c ∧ c ≠ 'n' ∧ c ≠ '-' := by
  refine ⟨⟨?_, ?_, ?_, ?_⟩, ?_, ?_⟩
  · cases space : isSpace c with
    | false => rfl
    | true =>
        simp only [isSpace, Bool.or_eq_true, beq_iff_eq] at space
        rcases space with ((rfl | rfl) | rfl) | rfl <;> cases h
  all_goals
    rintro rfl
    cases h

theorem readsBack_count {n : Nat} (fits : n ≤ greatestWhole) :
    ReadsBack readCount (.number (.nat n)) := by
  have all := @Text.isDigit_of_mem_toDigits n
  obtain ⟨c, tail, digits⟩ := List.exists_cons_of_ne_nil (@Nat.toDigits_ne_nil n 10)
  obtain ⟨opening, notNull, notMinus⟩ := opening_digit (all c (digits ▸ List.mem_cons_self))
  constructor
  · intro layout
    exact ⟨c, tail, digits, opening, fun h => absurd h notNull⟩
  · intro layout input rest stop start
    have number := readNumber_toDigits fits stop
    have shown : (Json.number (.nat n)).write layout ++ rest = Nat.toDigits 10 n ++ rest := rfl
    rw [shown, digits, List.cons_append] at start
    rw [digits, List.cons_append] at number
    rw [readCount, start]
    split
    next same => exact absurd (List.cons.inj same).1 notMinus
    next same =>
      obtain ⟨rfl, rfl⟩ := List.cons.inj same
      rw [if_pos (all c (digits ▸ List.mem_cons_self)), number]
      rfl
    next nothing => cases nothing

theorem readsBack_choice {names : List String} {s : String} (known : s ∈ names) :
    ReadsBack (readChoice names) (.text s) where
  opening := opening_text s
  read := by
    intro layout input rest stop start
    rw [write_text_append] at start
    rw [readChoice, start]
    simp only [readText_writeText, ok_bind, List.contains_iff_mem, known, if_true]

theorem Shape.readsBack (s : Shape) (regular : s.Regular) {v : Json} (admitted : s.Admits v) :
    ReadsBack s.read v := by
  induction s generalizing v with
  | text =>
      obtain ⟨t, rfl⟩ := admitted
      refine ⟨opening_text t, fun layout input rest stop start => ?_⟩
      rw [Shape.read, readTextAs_text _ start]
      rfl
  | flag =>
      obtain ⟨b, rfl⟩ := admitted
      exact readsBack_flag b
  | count =>
      obtain ⟨n, fits, rfl⟩ := admitted
      exact readsBack_count fits
  | written what accepts =>
      obtain ⟨t, accepted, rfl⟩ := admitted
      refine ⟨opening_text t, fun layout input rest stop start => ?_⟩
      rw [Shape.read, readTextAs_text _ start]
      simp only [ok_bind, accepted, if_true]
  | choice names =>
      obtain ⟨t, known, rfl⟩ := admitted
      exact readsBack_choice known
  | list item ih =>
      obtain ⟨items, each, rfl⟩ := admitted
      exact readsBack_list fun i hi => ih regular (each i hi)
  | option item ih =>
      rcases admitted with rfl | admitted
      · refine ⟨fun layout => ⟨'n', _, rfl, by decide,
          fun _ => rfl⟩, fun layout input rest stop start => ?_⟩
        rw [Shape.read, readOptionWith, start]
        rfl
      · have back := ih regular admitted
        refine ⟨back.opening, fun layout input rest stop start => ?_⟩
        obtain ⟨c, tail, hw, opening, null⟩ := back.opening layout
        rw [Shape.read, readOptionWith]
        split
        next after same =>
          -- Only null begins with this letter, and null is read as itself.
          rw [start, hw] at same
          obtain rfl := null (List.cons.inj same).1
          cases same
          cases hw
          rfl
        next => exact back.read layout _ rest stop (by rw [skipSpace_skipSpace, start])
  | record name fields ih =>
      obtain ⟨members, admitted, rfl⟩ := admitted
      obtain ⟨distinct, all⟩ := regular
      exact readsBack_record name distinct
        (fun f hf v hv => ih f hf ((regularFields_iff fields).mp all f hf) hv) admitted
  | checked base fault ih =>
      obtain ⟨admitted, passed⟩ := admitted
      have back := ih regular admitted
      refine ⟨back.opening, fun layout input rest stop start => ?_⟩
      rw [Shape.read, back.read layout input rest stop start]
      simp only [ok_bind, passed]

theorem Shape.readDocument_write {s : Shape} (regular : s.Regular) {v : Json}
    (admitted : s.Admits v) (layout : Layout) :
    s.readDocument (String.ofList (v.write layout)) = .ok v := by
  have back := s.readsBack regular admitted
  obtain ⟨c, tail, hw, opening, _⟩ := back.opening layout
  have read : s.read (v.write layout) = .ok (v, []) := by
    refine back.read layout _ [] stops_nil ?_
    rw [List.append_nil, hw, skipSpace_of_not_space opening.1]
  rw [readDocument, String.toList_ofList, read]
  rfl

end Json
end FeatureScan
