import FeatureScan.Proofs.Json.Characters
import FeatureScan.Proofs.Json.Numerals
import FeatureScan.Proofs.Json.Separators

/-!
A text of the grammar is read as the value of its document, if the document keeps to the limits of
the reader. Each way to spell a document has its own lemma, and the induction puts them together.
-/

namespace FeatureScan
namespace Json

open Mark (join?)

namespace Document

mutual

/-- What a document within the limits stands for. -/
def value : Document → Json
  | .null => .null
  | .bool b => .bool b
  | .number n => .number n.value
  | .text marks => .text (Mark.text marks)
  | .list items => .list (values items)
  | .object members => .object (entries [] members)

def values : List Document → List Json
  | [] => []
  | d :: rest => d.value :: values rest

/-- The members in the order of their names. A later member takes the place of an earlier one. -/
def entries (kept : List (String × Json)) : List (List Mark × Document) → List (String × Json)
  | [] => kept
  | (name, d) :: rest => entries (insertEntry (Mark.text name) d.value kept) rest

end

end Document

/-- The limits of the reader: it takes no number out of range and no half of a surrogate pair. -/
def readerLimits : Limits :=
  ⟨fun n => n.value?.isSome = true, fun marks => (join? marks).isSome = true⟩

open Document (value values entries Within)

variable {first : Bool} {input rest : List Char}

theorem readKeyword_eq_ok {word : List Char} :
    readKeyword word input = .ok ((), rest) ↔ input = word ++ rest := by
  induction word generalizing input with
  | nil => simp [readKeyword]
  | cons k word ih =>
      cases input with
      | nil => simp [readKeyword, failAt]
      | cons c input =>
          rw [readKeyword]
          split
          next same => simp [ih, same]
          next other => simp [failAt, other]

/-- A number begins with a digit or with its sign. -/
theorem Numeral.Spelled.exists_cons {n : Numeral} {s : List Char} (spelled : n.Spelled s) :
    ∃ c tail, s = c :: tail ∧ (c.isDigit = true ∨ c = '-') := by
  cases spelled with
  | plain _ digits =>
      cases digits with
      | parts whole =>
          obtain ⟨c, more, begins, digit⟩ := whole.exists_cons
          exact ⟨c, _, congrArg (· ++ _) begins, .inl digit⟩
  | minus => exact ⟨'-', _, rfl, .inr rfl⟩

/-- Every value begins with a character that does not stand between parts. -/
theorem exists_opening {d : Document} {s : List Char} (spelled : Spells (.value d) s) :
    ∃ c tail, s = c :: tail ∧ Opening c := by
  cases spelled with
  | number spelled =>
      obtain ⟨c, tail, begins, digit | rfl⟩ := spelled.exists_cons
      · exact ⟨c, tail, begins, (opening_digit digit).1⟩
      · exact ⟨'-', tail, begins, by decide⟩
  | null | true | false | text | emptyList | list | emptyObject | object =>
      exact ⟨_, _, rfl, by decide⟩

theorem readScalar_digit {c : Char} (digit : c.isDigit = true) :
    readScalar c input = (readNumber false (c :: input)).map fun (n, rest) => (.number n, rest) := by
  unfold readScalar
  split
  case h_6 => rw [if_pos digit]
  all_goals cases digit

theorem readScalar_number {n : Numeral} {s : List Char} {c : Char} (spelled : n.Spelled s)
    (fits : n.value?.isSome = true) (stop : Stops rest) (begins : s ++ rest = c :: input) :
    readScalar c input = .ok (.number n.value, rest) := by
  have whole {s : List Char} (digits : n.Unsigned s) :
      readNumber n.negative (s ++ rest) = .ok (n.value, rest) := by
    obtain ⟨v, value⟩ := Option.isSome_iff_exists.mp fits
    rw [Numeral.readNumber_unsigned digits stop, Numeral.value, value]
    rfl
  cases spelled with
  | plain positive digits =>
      have number := whole digits
      have digit : c.isDigit = true := by
        cases digits with
        | parts counted =>
            obtain ⟨d, more, begins', digit⟩ := counted.exists_cons
            rw [begins'] at begins
            cases begins
            exact digit
      rw [begins, positive] at number
      rw [readScalar_digit digit, number]
      rfl
  | minus negative digits =>
      have number := whole digits
      rw [List.cons_append] at begins
      obtain ⟨rfl, rfl⟩ := List.cons.inj begins
      rw [negative] at number
      rw [readScalar, number]
      rfl

theorem exists_of_readScalar {c : Char} {v : Json} (read : readScalar c input = .ok (v, rest)) :
    ∃ d s, c :: input = s ++ rest ∧ Spells (.value d) s ∧ (∀ depth, Within readerLimits depth d) ∧
      d.value = v := by
  have number : ∀ {negative : Bool} {after : List Char},
      (readNumber negative after).map (fun (n, rest) => (Json.number n, rest)) = .ok (v, rest) →
      ∃ n s, n.negative = negative ∧ n.Unsigned s ∧ after = s ++ rest ∧ n.value?.isSome = true ∧
        Document.value (.number n) = v := by
    intro negative after read
    obtain ⟨⟨m, _⟩, read, same⟩ := map_eq_ok.mp read
    cases same
    obtain ⟨n, s, sign, digits, split, value⟩ := Numeral.exists_of_readNumber read
    refine ⟨n, s, sign, digits, split, by simp [value], ?_⟩
    simp [Document.value, Numeral.value, value]
  unfold readScalar at read
  split at read
  next =>
    obtain ⟨⟨_, _⟩, word, same⟩ := map_eq_ok.mp read
    cases same
    exact ⟨.null, _, congrArg ('n' :: ·) (readKeyword_eq_ok.mp word), .null, fun _ => .null, rfl⟩
  next =>
    obtain ⟨⟨_, _⟩, word, same⟩ := map_eq_ok.mp read
    cases same
    exact ⟨.bool true, _, congrArg ('t' :: ·) (readKeyword_eq_ok.mp word), .true, fun _ => .bool, rfl⟩
  next =>
    obtain ⟨⟨_, _⟩, word, same⟩ := map_eq_ok.mp read
    cases same
    exact ⟨.bool false, _, congrArg ('f' :: ·) (readKeyword_eq_ok.mp word), .false, fun _ => .bool,
      rfl⟩
  next =>
    obtain ⟨n, s, negative, digits, rfl, fits, value⟩ := number read
    exact ⟨.number n, '-' :: s, rfl, .number (.minus negative digits), fun _ => .number fits, value⟩
  next =>
    obtain ⟨⟨t, _⟩, read, same⟩ := map_eq_ok.mp read
    cases same
    obtain ⟨marks, s, spelled, joined, rfl, rfl⟩ := readText_eq_ok.mp read
    exact ⟨.text marks, _, by simp, .text spelled, fun _ => .text joined, rfl⟩
  next =>
    split at read
    next =>
      obtain ⟨n, s, negative, digits, split, fits, value⟩ := number read
      exact ⟨.number n, s, split, .number (.plain negative digits), fun _ => .number fits, value⟩
    next => cases read

/-- A member of an object, after the opening quote of its name. -/
def readMember (fuel depth : Nat) (input : List Char) :
    Except Problem ((String × Json) × List Char) := do
  let (name, rest) ← readText input
  let (_, rest) ← readColon rest
  let (v, rest) ← readValue fuel depth rest
  .ok ((name, v), rest)

theorem readMembers_succ {fuel depth : Nat} {kept : List (String × Json)} {next : List Char}
    (found : nextMember first input = .ok (some next)) :
    readMembers (fuel + 1) depth first kept input =
      (do
        let (m, rest) ← readMember fuel depth next
        readMembers fuel depth false (insertEntry m.1 m.2 kept) rest) := by
  simp only [readMembers, found, ok_bind, readMember]
  cases readText next with
  | error => rfl
  | ok t =>
      cases colon : readColon t.2 with
      | error => simp [colon]
      | ok after =>
          simp only [ok_bind, colon]
          cases readValue fuel depth after.2 <;> rfl

/-- A part of a document is read with fuel for its length, whatever follows that does not continue
it. Before an item or a member after the first one stands the comma. -/
def ReadAs : Phrase → List Char → Prop
  | .value d, s => ∀ {fuel depth input rest}, d.Within readerLimits depth → 2 * s.length ≤ fuel →
      Stops rest → skipSpace input = s ++ rest → readValue fuel depth input = .ok (d.value, rest)
  | .items ds, s => ∀ {fuel depth first taken input rest}, (∀ d ∈ ds, d.Within readerLimits depth) →
      2 * s.length < fuel → Lead first (s ++ ']' :: rest) input →
      readItems fuel depth first taken input = .ok (taken.reverse ++ values ds, rest)
  | .member name d, s => ∃ body, s = '"' :: body ∧ ∀ {fuel depth rest}, (join? name).isSome = true →
      d.Within readerLimits depth → 2 * s.length ≤ fuel → Stops rest →
      readMember fuel depth (body ++ rest) = .ok ((Mark.text name, d.value), rest)
  | .members ms, s => ∀ {fuel depth first kept input rest}, (∀ m ∈ ms, (join? m.1).isSome = true) →
      (∀ m ∈ ms, m.2.Within readerLimits depth) → 2 * s.length < fuel →
      Lead first (s ++ '\x7d' :: rest) input →
      readMembers fuel depth first kept input = .ok (entries kept ms, rest)

section

variable {fuel depth : Nat}

theorem readValue_scalar {c : Char} {tail : List Char} (start : skipSpace input = c :: tail)
    (noList : c ≠ '[') (noObject : c ≠ '\x7b') :
    readValue (fuel + 1) depth input = readScalar c tail := by
  rw [readValue, start]
  split
  next nothing => cases nothing
  next same => exact absurd (List.cons.inj same).1 noList
  next same => exact absurd (List.cons.inj same).1 noObject
  next same =>
    obtain ⟨rfl, rfl⟩ := List.cons.inj same
    rfl

theorem readValue_list {tail : List Char} (start : skipSpace input = '[' :: tail) :
    readValue (fuel + 1) (depth + 1) input =
      (readItems fuel depth true [] tail).map fun (items, rest) => (.list items, rest) := by
  rw [readValue, start]
  rfl

theorem readValue_object {tail : List Char} (start : skipSpace input = '\x7b' :: tail) :
    readValue (fuel + 1) (depth + 1) input =
      (readMembers fuel depth true [] tail).map fun (members, rest) => (.object members, rest) := by
  rw [readValue, start]
  rfl

theorem readItems_close {b : List Char} (blank : Blank b) (first : Bool) (taken : List Json)
    (rest : List Char) :
    readItems (fuel + 1) depth first taken (b ++ ']' :: rest) = .ok (taken.reverse, rest) := by
  have close : skipSpace (b ++ ']' :: rest) = ']' :: rest := by
    rw [skipSpace_append blank, skipSpace_of_not_space rfl]
  rw [readItems, nextItem_close close, close]
  rfl

theorem readMembers_close {b : List Char} (blank : Blank b) (first : Bool)
    (kept : List (String × Json)) (rest : List Char) :
    readMembers (fuel + 1) depth first kept (b ++ '\x7d' :: rest) = .ok (kept, rest) := by
  have close : skipSpace (b ++ '\x7d' :: rest) = '\x7d' :: rest := by
    rw [skipSpace_append blank, skipSpace_of_not_space rfl]
  rw [readMembers, nextMember_close close, close]
  rfl

end

theorem skipSpace_spelled {d : Document} {s : List Char} (spelled : Spells (.value d) s)
    (rest : List Char) : skipSpace (s ++ rest) = s ++ rest := by
  obtain ⟨c, tail, rfl, opening⟩ := exists_opening spelled
  exact skipSpace_of_not_space opening.1 _

section

variable {fuel depth : Nat} {b s more : List Char} {d : Document}
  (within : d.Within readerLimits depth)
  (stop : Stops more) (enough : 2 * s.length ≤ fuel) (before : Blank b)
  (lead : Lead first (b ++ (s ++ more)) input)
include within stop enough before lead

/-- An item is read, and what is behind it is left to the others. -/
theorem readItems_step (spelled : Spells (.value d) s) (read : ReadAs (.value d) s)
    (taken : List Json) :
    readItems (fuel + 1) depth first taken input =
      readItems fuel depth false (d.value :: taken) more := by
  have whole := read within enough stop (skipSpace_spelled spelled more)
  obtain ⟨c, tail, rfl, opening⟩ := exists_opening spelled
  rw [List.cons_append] at lead whole
  rw [readItems, nextItem_of_lead lead before opening]
  simp only [ok_bind, whole]

theorem readMembers_step {name : List Mark} (named : (join? name).isSome = true)
    (read : ReadAs (.member name d) s) (kept : List (String × Json)) :
    readMembers (fuel + 1) depth first kept input =
      readMembers fuel depth false (insertEntry (Mark.text name) d.value kept) more := by
  obtain ⟨body, rfl, read⟩ := read
  rw [List.cons_append] at lead
  rw [readMembers_succ (nextMember_of_lead lead before), read named within enough stop]
  rfl

end

section

variable {s b b' t more : List Char} {d : Document} {name : List Mark}

theorem readAs_number {n : Numeral} (spelled : n.Spelled s) : ReadAs (.value (.number n)) s := by
  intro fuel depth input rest within enough stop start
  obtain ⟨c, tail, rfl, kind⟩ := spelled.exists_cons
  obtain ⟨k, rfl⟩ : ∃ k, fuel = k + 1 := ⟨fuel - 1, by simp at enough; omega⟩
  cases within with
  | number fits =>
      have noList : c ≠ '[' := by
        rintro rfl
        simp at kind
      have noObject : c ≠ '\x7b' := by
        rintro rfl
        simp at kind
      rw [readValue_scalar start noList noObject]
      exact readScalar_number spelled fits stop rfl

theorem readAs_text {marks : List Mark} (spelled : Characters marks s) :
    ReadAs (.value (.text marks)) ('"' :: (s ++ ['"'])) := by
  intro fuel depth input rest within enough stop start
  obtain ⟨k, rfl⟩ : ∃ k, fuel = k + 1 := ⟨fuel - 1, by simp at enough; omega⟩
  cases within with
  | text fits =>
      have read : readText (s ++ '"' :: rest) = .ok (Mark.text marks, rest) :=
        readText_eq_ok.mpr ⟨marks, s, spelled, fits, rfl, rfl⟩
      have start : skipSpace input = '"' :: (s ++ '"' :: rest) := by simpa using start
      rw [readValue_scalar start (by decide) (by decide), readScalar, read]
      rfl

theorem readAs_emptyList (blank : Blank b) : ReadAs (.value (.list [])) ('[' :: (b ++ [']'])) := by
  intro fuel depth input rest within enough stop start
  simp only [List.length_cons, List.length_append] at enough
  obtain ⟨k, rfl⟩ : ∃ k, fuel = k + 2 := ⟨fuel - 2, by omega⟩
  cases within with
  | list =>
      have start : skipSpace input = '[' :: (b ++ ']' :: rest) := by simpa using start
      rw [readValue_list start, readItems_close blank]
      rfl

theorem readAs_list {ds : List Document} (items : ReadAs (.items ds) s) :
    ReadAs (.value (.list ds)) ('[' :: (s ++ [']'])) := by
  intro fuel depth input rest within enough stop start
  simp only [List.length_cons, List.length_append] at enough
  obtain ⟨k, rfl⟩ : ∃ k, fuel = k + 1 := ⟨fuel - 1, by omega⟩
  cases within with
  | list each =>
      have start : skipSpace input = '[' :: (s ++ ']' :: rest) := by simpa using start
      rw [readValue_list start, items each (by omega) .first]
      rfl

theorem readAs_emptyObject (blank : Blank b) :
    ReadAs (.value (.object [])) ('\x7b' :: (b ++ ['\x7d'])) := by
  intro fuel depth input rest within enough stop start
  simp only [List.length_cons, List.length_append] at enough
  obtain ⟨k, rfl⟩ : ∃ k, fuel = k + 2 := ⟨fuel - 2, by omega⟩
  cases within with
  | object =>
      have start : skipSpace input = '\x7b' :: (b ++ '\x7d' :: rest) := by simpa using start
      rw [readValue_object start, readMembers_close blank]
      rfl

theorem readAs_object {ms : List (List Mark × Document)} (members : ReadAs (.members ms) s) :
    ReadAs (.value (.object ms)) ('\x7b' :: (s ++ ['\x7d'])) := by
  intro fuel depth input rest within enough stop start
  simp only [List.length_cons, List.length_append] at enough
  obtain ⟨k, rfl⟩ : ∃ k, fuel = k + 1 := ⟨fuel - 1, by omega⟩
  cases within with
  | object names each =>
      have start : skipSpace input = '\x7b' :: (s ++ '\x7d' :: rest) := by simpa using start
      rw [readValue_object start, members names each (by omega) .first]
      rfl

theorem readAs_lastItem (before : Blank b) (spelled : Spells (.value d) s) (after : Blank b')
    (item : ReadAs (.value d) s) : ReadAs (.items [d]) (b ++ (s ++ b')) := by
  intro fuel depth first taken input rest each enough lead
  obtain ⟨c, tail, begins, _⟩ := exists_opening spelled
  have some_char : 0 < s.length := begins ▸ Nat.zero_lt_succ _
  simp only [List.length_append] at enough
  obtain ⟨k, rfl⟩ : ∃ k, fuel = k + 2 := ⟨fuel - 2, by omega⟩
  have stop : Stops (b' ++ ']' :: rest) := stops_blank_append after (stops_cons (by decide) rest)
  rw [List.append_assoc, List.append_assoc] at lead
  rw [readItems_step (each d List.mem_cons_self) stop (by omega) before lead spelled item,
    readItems_close after]
  simp [values]

theorem readAs_item {ds : List Document} (before : Blank b) (spelled : Spells (.value d) s)
    (after : Blank b') (item : ReadAs (.value d) s) (others : ReadAs (.items ds) more) :
    ReadAs (.items (d :: ds)) (b ++ (s ++ (b' ++ ',' :: more))) := by
  intro fuel depth first taken input rest each enough lead
  obtain ⟨within, later⟩ := List.forall_mem_cons.mp each
  simp only [List.length_append, List.length_cons] at enough
  obtain ⟨k, rfl⟩ : ∃ k, fuel = k + 1 := ⟨fuel - 1, by omega⟩
  have stop : Stops (b' ++ ',' :: (more ++ ']' :: rest)) :=
    stops_blank_append after (stops_cons (by decide) _)
  simp only [List.append_assoc, List.cons_append] at lead
  rw [readItems_step within stop (by omega) before lead spelled item,
    others later (by omega) (.comma after)]
  simp [values]

theorem readAs_member (named : Characters name t) (before : Blank b) (after : Blank b')
    (spelled : Spells (.value d) s) (value : ReadAs (.value d) s) :
    ReadAs (.member name d) ('"' :: (t ++ '"' :: (b ++ ':' :: (b' ++ s)))) := by
  refine ⟨_, rfl, ?_⟩
  intro fuel depth rest joined within enough stop
  simp only [List.length_append, List.length_cons] at enough
  have text : readText (t ++ '"' :: (b ++ ':' :: (b' ++ s)) ++ rest) =
      .ok (Mark.text name, b ++ ':' :: (b' ++ (s ++ rest))) :=
    readText_eq_ok.mpr ⟨name, t, named, joined, by simp, rfl⟩
  have colon : readColon (b ++ ':' :: (b' ++ (s ++ rest))) = .ok ((), b' ++ (s ++ rest)) :=
    readColon_eq_ok.mpr ⟨b, before, rfl⟩
  have start : skipSpace (b' ++ (s ++ rest)) = s ++ rest := by
    rw [skipSpace_append after, skipSpace_spelled spelled]
  have short : 2 * s.length ≤ fuel := by omega
  rw [readMember, text]
  simp only [ok_bind, colon, value within short stop start]

theorem readAs_lastMember (before : Blank b) (after : Blank b') (member : ReadAs (.member name d) s) :
    ReadAs (.members [(name, d)]) (b ++ (s ++ b')) := by
  intro fuel depth first kept input rest names each enough lead
  have ⟨_, begins, _⟩ := member
  have some_char : 0 < s.length := begins ▸ Nat.zero_lt_succ _
  simp only [List.length_append] at enough
  obtain ⟨k, rfl⟩ : ∃ k, fuel = k + 2 := ⟨fuel - 2, by omega⟩
  have stop : Stops (b' ++ '\x7d' :: rest) := stops_blank_append after (stops_cons (by decide) rest)
  rw [List.append_assoc, List.append_assoc] at lead
  rw [readMembers_step (each _ List.mem_cons_self) stop (by omega) before lead
    (names _ List.mem_cons_self) member, readMembers_close after]
  rfl

theorem readAs_members {ms : List (List Mark × Document)} (before : Blank b) (after : Blank b')
    (member : ReadAs (.member name d) s) (others : ReadAs (.members ms) more) :
    ReadAs (.members ((name, d) :: ms)) (b ++ (s ++ (b' ++ ',' :: more))) := by
  intro fuel depth first kept input rest names each enough lead
  obtain ⟨named, later_names⟩ := List.forall_mem_cons.mp names
  obtain ⟨within, later⟩ := List.forall_mem_cons.mp each
  simp only [List.length_append, List.length_cons] at enough
  obtain ⟨k, rfl⟩ : ∃ k, fuel = k + 1 := ⟨fuel - 1, by omega⟩
  have stop : Stops (b' ++ ',' :: (more ++ '\x7d' :: rest)) :=
    stops_blank_append after (stops_cons (by decide) _)
  simp only [List.append_assoc, List.cons_append] at lead
  rw [readMembers_step within stop (by omega) before lead named member,
    others later_names later (by omega) (.comma after)]
  rfl

end

theorem readAs_of_spells {p : Phrase} {s : List Char} (spelled : Spells p s) : ReadAs p s := by
  induction spelled with
  | null | true | false =>
      intro fuel depth input rest _ enough _ start
      obtain ⟨k, rfl⟩ : ∃ k, fuel = k + 1 := ⟨fuel - 1, by simp at enough; omega⟩
      rw [readValue_scalar start (by decide) (by decide)]
      rfl
  | number spelled => exact readAs_number spelled
  | text spelled => exact readAs_text spelled
  | emptyList blank => exact readAs_emptyList blank
  | list _ items => exact readAs_list items
  | emptyObject blank => exact readAs_emptyObject blank
  | object _ members => exact readAs_object members
  | lastItem before spelled after item => exact readAs_lastItem before spelled after item
  | item before spelled after _ item others => exact readAs_item before spelled after item others
  | member named before after spelled value => exact readAs_member named before after spelled value
  | lastMember before _ after member => exact readAs_lastMember before after member
  | members before _ after _ member others => exact readAs_members before after member others

end Json
end FeatureScan
