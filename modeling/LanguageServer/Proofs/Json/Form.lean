import LanguageServer.Proofs.Json.Reading

/-! Objects of a form: members that may stand in any order, some of which may be absent. A record is
read from every text of an object of its form. -/

namespace LanguageServer.Json

/-! ### Forms of objects -/

/-- A member that an object can have: its key, the values it may have and whether it has to be
there. -/
structure Slot where
  key : String
  holds : Json → Prop
  required : Prop

def Slot.always (key : String) (holds : Json → Prop) : Slot :=
  ⟨key, holds, True⟩

/-- A member for a value that can be absent: then it is `null` or not there. -/
def Slot.maybe (key : String) (value : Option β) (form : β → Json → Prop) : Slot where
  key := key
  holds json := match value with
    | some value => form value json
    | none => json = .null
  required := value.isSome = true

/-- A member that has to be there only in a case. -/
def Slot.inCase (slot : Slot) (condition : Prop) : Slot :=
  { slot with required := condition }

/-- An object with members in any order, each at most once: none that has no slot, and all that have
to be there. -/
def HasForm (slots : List Slot) (json : Json) : Prop :=
  ∃ members, json = .object members ∧ (members.map (·.1)).Nodup ∧
    (∀ member ∈ members, ∃ slot ∈ slots, slot.key = member.1 ∧ slot.holds member.2) ∧
    ∀ slot ∈ slots, slot.required → slot.key ∈ members.map (·.1)

def IsString (value : String) (json : Json) : Prop :=
  json = .string value

def IsNumber (value : Nat) (json : Json) : Prop :=
  json = Json.nat value

/-! ### Reading a form -/

/-- How a record is read from an object of a form: the fields that some keys fill, and what becomes
of them. -/
structure Portrays (record : Record σ α) (slots : List Slot) (view : List String → σ)
    (made : List String → α) : Prop where
  empty : view [] = record.empty
  fills : ∀ slot ∈ slots, ∀ json, slot.holds json → ∃ field update,
    record.fields.find? (·.key == slot.key) = some field ∧
      (∀ filled, slot.key ∉ filled → field.filled (view filled) = false) ∧
      (∀ text, Spells json text → Reads field.read text update) ∧
      ∀ filled, update (view filled) = view (slot.key :: filled)
  build : ∀ filled, (∀ slot ∈ slots, slot.required → slot.key ∈ filled) →
    record.build (view filled) = .ok (made filled)

namespace Portrays

variable {record : Record σ α} {slots : List Slot} {view : List String → σ}
  {made : List String → α}

theorem takes (portrays : Portrays record slots view made) (members : List (String × Json))
    (filled : List String) (distinct : (members.map (·.1)).Nodup)
    (fresh : ∀ member ∈ members, member.1 ∉ filled)
    (known : ∀ member ∈ members, ∃ slot ∈ slots, slot.key = member.1 ∧ slot.holds member.2) :
    record.Takes (view filled) members (view ((members.map (·.1)).reverse ++ filled)) := by
  induction members generalizing filled with
  | nil => exact .nil
  | cons member members ih =>
    obtain ⟨key, json⟩ := member
    obtain ⟨absent, others⟩ := List.nodup_cons.mp distinct
    obtain ⟨slot, hasSlot, rfl, holds⟩ := known (key, json) (List.mem_cons_self ..)
    obtain ⟨field, update, found, unfilled, reads, updates⟩ :=
      portrays.fills slot hasSlot json holds
    have later : ∀ other ∈ members, other.1 ∉ slot.key :: filled := by
      intro other membership again
      rcases List.mem_cons.mp again with same | before
      · exact absent (List.mem_map.mpr ⟨other, membership, same⟩)
      · exact fresh other (List.mem_cons_of_mem _ membership) before
    have further := ih (slot.key :: filled) others later
      fun other membership => known other (List.mem_cons_of_mem _ membership)
    rw [← updates] at further
    have first := unfilled filled (fresh _ (List.mem_cons_self ..))
    have all := Record.Takes.cons found first reads further
    simpa using all

/-- A record is read from each text of an object of its form. -/
theorem reads (portrays : Portrays record slots view made) {json : Json}
    (form : HasForm slots json) :
    ∃ filled, (∀ slot ∈ slots, slot.required → slot.key ∈ filled) ∧
      ∀ text, Spells json text → Reads record.read text (made filled) := by
  obtain ⟨members, rfl, distinct, known, complete⟩ := form
  have takes := portrays.takes members [] distinct (fun _ _ => List.not_mem_nil) known
  rw [portrays.empty, List.append_nil] at takes
  have complete : ∀ slot ∈ slots, slot.required → slot.key ∈ (members.map (·.1)).reverse := by
    intro slot membership required
    exact List.mem_reverse.mpr (complete slot membership required)
  exact ⟨_, complete, fun text => Record.reads_object takes (portrays.build _ complete)⟩

end Portrays

/-! ### Values of members -/

theorem reads_isString {value : String} {json : Json} (same : IsString value json)
    {text : List Char} (spelled : Spells json text) : Reads Reader.string text value := by
  subst same
  cases spelled with
  | string spelled => exact reads_string spelled

theorem reads_isNumber {value : Nat} (small : value < Nat.pow 2 32) {json : Json}
    (same : IsNumber value json) {text : List Char} (spelled : Spells json text) :
    Reads Reader.word text value := by
  subst same
  exact reads_word small spelled

theorem reads_maybe {reader : Reader α} {key : String} {value : Option α} {form : α → Json → Prop}
    (other : ∀ present, ¬ form present .null)
    (each : ∀ present, value = some present → ∀ json, form present json →
      ∀ text, Spells json text → Reads reader text present) {json : Json}
    (holds : (Slot.maybe key value form).holds json) {text : List Char}
    (spelled : Spells json text) : Reads (Reader.optional reader) text value := by
  cases value with
  | none =>
    obtain rfl : json = .null := holds
    exact reads_optional_null spelled
  | some present =>
    have holds : form present json := holds
    refine reads_optional spelled ?_ (each present rfl json holds text spelled)
    rintro rfl
    exact other present holds

theorem reads_maybe_string {key : String} {value : Option String} {json : Json}
    (holds : (Slot.maybe key value IsString).holds json) {text : List Char}
    (spelled : Spells json text) : Reads (Reader.optional Reader.string) text value := by
  refine reads_maybe ?_ ?_ holds spelled
  · rintro present ⟨⟩
  · intro present _ json same text spelled
    exact reads_isString same spelled

/-- The value of a field whose key is among some. -/
def given (filled : List String) (key : String) (value : α) : Option α :=
  if key ∈ filled then some value else none

theorem given_of_mem {filled : List String} {key : String} (value : α) (membership : key ∈ filled) :
    given filled key value = some value :=
  if_pos membership

theorem given_of_not_mem {filled : List String} {key : String} (value : α) (absent : key ∉ filled) :
    (given filled key value).isSome = false := by
  rw [given, if_neg absent]
  rfl

@[simp]
theorem given_cons_self (filled : List String) (key : String) (value : α) :
    given (key :: filled) key value = some value :=
  if_pos (List.mem_cons_self ..)

theorem given_cons_of_ne (filled : List String) {key other : String} (value : α)
    (different : key ≠ other) : given (other :: filled) key value = given filled key value := by
  simp [given, different]

/-- A value that can be absent is there if its key has to be among those that are filled. -/
theorem join_given {filled : List String} {key : String} {value : Option α}
    (complete : value.isSome = true → key ∈ filled) : (given filled key value).join = value := by
  by_cases membership : key ∈ filled
  · rw [given_of_mem _ membership]
    rfl
  · have absent : value = none := by
      cases value with
      | none => rfl
      | some value => exact absurd (complete rfl) membership
    rw [given, if_neg membership, absent]
    rfl

theorem all_of_reads {reader : Reader α} {text : List Char} {value : α}
    (reads : Reads reader text value) : reader.all text = .ok value := by
  have ends : Ends [] := by
    intro c first
    cases first
  have read := reads [] [] isSpacing_nil ends
  rw [List.nil_append, List.append_nil] at read
  have whole : (reader >>= fun value => Reader.endOfText >>= fun _ => pure value) text =
      .ok (value, []) := by
    rw [bind_ok read]
    rfl
  rw [Reader.all, StateT.run, whole]

theorem HasForm.spelled {slots : List Slot} {json : Json} (form : HasForm slots json)
    {text : List Char} (spelled : Spells json text) : ∃ inner, text = '{' :: inner ++ ['\x7d'] := by
  obtain ⟨members, rfl, -⟩ := form
  cases spelled with
  | emptyObject spacing => exact ⟨_, rfl⟩
  | object spelled => exact ⟨_, rfl⟩

/-! ### The usual form -/

/-- A member that is written for a slot, unless it is absent. -/
structure Slot.FilledBy (slot : Slot) (member : String × Option Json) : Prop where
  key : slot.key = member.1
  holds : ∀ json, member.2 = some json → slot.holds json ∧ Spells json (write json)
  present : slot.required → member.2.isSome = true

theorem filledBy_always {key : String} {holds : Json → Prop} {json : Json} (fits : holds json)
    (spelled : Spells json (write json)) : (Slot.always key holds).FilledBy (key, some json) where
  key := rfl
  holds := by
    rintro _ ⟨⟩
    exact ⟨fits, spelled⟩
  present _ := rfl

theorem filledBy_maybe {key : String} {value : Option β} {form : β → Json → Prop}
    {encode : β → Json} (fits : ∀ present, value = some present →
      form present (encode present) ∧ Spells (encode present) (write (encode present))) :
    (Slot.maybe key value form).FilledBy (key, value.map encode) where
  key := rfl
  holds := by
    intro json same
    cases value with
    | none => cases same
    | some present =>
      cases same
      exact fits present rfl
  present required := by
    rw [Option.isSome_map]
    exact required

theorem Slot.FilledBy.inCase {slot : Slot} {member : String × Option Json}
    (filled : slot.FilledBy member) {condition : Prop}
    (needed : condition → member.2.isSome = true) : (slot.inCase condition).FilledBy member :=
  ⟨filled.key, filled.holds, needed⟩

theorem filledBy_boolean {key : String} {value : Bool} :
    (Slot.always key (· = .bool value)).FilledBy (key, some (.bool value)) := by
  refine filledBy_always (Eq.refl _) ?_
  cases value with
  | true => exact .yes
  | false => exact .no

theorem keys_sublist (members : List (String × Option Json)) :
    ((members.filterMap fun (key, value) => value.map (key, ·)).map (·.1)).Sublist
      (members.map (·.1)) := by
  induction members with
  | nil => exact .slnil
  | cons member members ih =>
    obtain ⟨key, value⟩ := member
    cases value with
    | none => exact ih.cons _
    | some json => exact ih.cons_cons _

theorem exists_left_of_mem {relation : α → β → Prop} {lefts : List α} {rights : List β}
    (related : List.Forall₂ relation lefts rights) {right : β} (membership : right ∈ rights) :
    ∃ left ∈ lefts, relation left right := by
  induction related with
  | nil => cases membership
  | cons first _ ih =>
    rcases List.mem_cons.mp membership with rfl | later
    · exact ⟨_, List.mem_cons_self .., first⟩
    · obtain ⟨left, inside, holds⟩ := ih later
      exact ⟨left, List.mem_cons_of_mem _ inside, holds⟩

/-- An object of members that fill the slots has the form that the slots give. -/
theorem hasForm_ofMembers {slots : List Slot} {members : List (String × Option Json)}
    (distinct : (members.map (·.1)).Nodup) (filled : List.Forall₂ Slot.FilledBy slots members) :
    HasForm slots (ofMembers members) := by
  refine ⟨_, rfl, distinct.sublist (keys_sublist members), ?_, ?_⟩
  · rintro ⟨key, json⟩ membership
    obtain ⟨⟨key, value⟩, inside, same⟩ := List.mem_filterMap.mp membership
    obtain ⟨json, rfl, ⟨⟩⟩ := Option.map_eq_some_iff.mp same
    obtain ⟨slot, hasSlot, fills⟩ := exists_left_of_mem filled inside
    exact ⟨slot, hasSlot, fills.key, (fills.holds json rfl).1⟩
  · intro slot membership required
    obtain ⟨⟨key, value⟩, inside, fills⟩ := exists_left_of_mem filled.flip membership
    obtain ⟨json, rfl⟩ := Option.isSome_iff_exists.mp (fills.present required)
    exact List.mem_map.mpr ⟨(key, json), List.mem_filterMap.mpr ⟨_, inside, rfl⟩, fills.key.symm⟩

theorem spells_ofMembers {slots : List Slot} {members : List (String × Option Json)}
    (filled : List.Forall₂ Slot.FilledBy slots members) :
    Spells (ofMembers members) (write (ofMembers members)) := by
  apply spells_object
  rintro ⟨key, json⟩ membership
  obtain ⟨⟨key, value⟩, inside, same⟩ := List.mem_filterMap.mp membership
  obtain ⟨json, rfl, ⟨⟩⟩ := Option.map_eq_some_iff.mp same
  obtain ⟨slot, -, fills⟩ := exists_left_of_mem filled inside
  exact (fills.holds json rfl).2

theorem filledBy_string {key value : String} :
    (Slot.always key (IsString value)).FilledBy (key, some (.string value)) :=
  filledBy_always rfl (spells_string value)

theorem filledBy_strings {key : String} {value : Option String} :
    (Slot.maybe key value IsString).FilledBy (key, value.map .string) :=
  filledBy_maybe fun present _ => ⟨rfl, spells_string present⟩

theorem filledBy_number {key : String} {value : Nat} :
    (Slot.always key (IsNumber value)).FilledBy (key, some (Json.nat value)) :=
  filledBy_always rfl (spells_number value)

end LanguageServer.Json
