import Mathlib.Data.List.Forall2
import Mathlib.Data.List.Nodup
import LanguageServer.Proofs.Json.Description

/-! What is known of a tree that fills the fields of a record: what it gives for each of their keys,
and that its strings are legible wherever a value is looked at. -/

namespace LanguageServer.Json

/-- A word is the key of one field at most. -/
theorem eq_of_spells {key other : String} {word : List Char} (spelled : SpellsChars key.toList word)
    (again : SpellsChars other.toList word) : key = other :=
  String.toList_inj.mp (spelled.unique again)

/-! ### The value of a key -/

/-- What a tree gives for a key, if a record has fields with these names: the value of the only member
with the key, or the item at the place of the field. -/
inductive Tree.Gives (names : List String) (key : String) : Option Tree → Tree → Prop
  | member (before : List (List Char × Tree)) {after : List (List Char × Tree)} {word : List Char}
      {value : Tree}
      (spelled : SpellsChars key.toList word)
      (only : ∀ other ∈ before ++ after, ¬SpellsChars key.toList other.1) :
      Gives names key (some value) (.object (before ++ (word, value) :: after))
  | missing {members : List (List Char × Tree)}
      (absent : ∀ other ∈ members, ¬SpellsChars key.toList other.1) :
      Gives names key none (.object members)
  | place {items : List Tree} {place : Nat} (named : names[place]? = some key) :
      Gives names key items[place]? (.array items)

theorem Tree.Gives.cons {names : List String} {key : String} {given : Option Tree}
    {members : List (List Char × Tree)} (gives : (Tree.object members).Gives names key given)
    {word : List Char} (other : ¬SpellsChars key.toList word) (value : Tree) :
    (Tree.object ((word, value) :: members)).Gives names key given := by
  cases gives with
  | member before spelled only =>
    refine .member ((word, value) :: before) spelled ?_
    rintro member (_ | ⟨_, there⟩)
    · exact other
    · exact only member there
  | missing absent =>
    refine .missing ?_
    rintro member (_ | ⟨_, there⟩)
    · exact other
    · exact absent member there

namespace Record

variable {record : Record σ α} {means : String → (σ → σ) → Tree → Prop}

/-- A part of the state has the value of the field with a key: it is there once the field is filled,
and no other field changes it. -/
structure Tracks (record : Record σ α) (means : String → (σ → σ) → Tree → Prop) (key : String)
    (get : σ → Option β) (meaning : β → Tree → Prop) : Prop where
  initially : get record.empty = none
  known : key ∈ record.fields.map (·.key)
  filled : ∀ field ∈ record.fields, field.key = key → ∀ state,
    field.filled state = (get state).isSome
  sets : ∀ {other update tree}, means other update tree → other = key → ∀ state,
    ∃ value, get (update state) = some value ∧ meaning value tree
  keeps : ∀ {other update tree}, means other update tree → other ≠ key → ∀ state,
    get (update state) = get state

variable {key : String} {get : σ → Option β} {meaning : β → Tree → Prop}

/-- A field that is filled stays as it is, and no further member has its key. -/
theorem Gathers.keeps (tracks : record.Tracks means key get meaning) {state result : σ}
    {members : List (List Char × Tree)} (gathers : record.Gathers means state members result)
    (there : (get state).isSome = true) :
    get result = get state ∧ ∀ other ∈ members, ¬SpellsChars key.toList other.1 := by
  induction gathers with
  | nil => exact ⟨rfl, fun _ absurdity => absurd absurdity List.not_mem_nil⟩
  | @skipped state result other word value members spelled unknown further ih =>
    obtain ⟨same, others⟩ := ih there
    refine ⟨same, ?_⟩
    rintro member (_ | ⟨_, later⟩)
    · exact fun again => unknown (eq_of_spells again spelled ▸ tracks.known)
    · exact others member later
  | @filled state result field update word value members spelled known fresh means further ih =>
    -- A second member with the key would have been refused.
    have different : field.key ≠ key := by
      intro same
      rw [tracks.filled field known same state, there] at fresh
      cases fresh
    have kept := tracks.keeps means different state
    obtain ⟨same, others⟩ := ih (kept ▸ there)
    refine ⟨same.trans kept, ?_⟩
    rintro member (_ | ⟨_, later⟩)
    · exact fun again => different (eq_of_spells spelled again)
    · exact others member later

theorem Gathers.gives (tracks : record.Tracks means key get meaning) {state result : σ}
    {members : List (List Char × Tree)} (gathers : record.Gathers means state members result)
    (empty : get state = none) (names : List String) :
    ∃ given, (Tree.object members).Gives names key given ∧ Option.Rel meaning (get result) given := by
  induction gathers with
  | nil =>
    refine ⟨none, .missing fun _ absurdity => absurd absurdity List.not_mem_nil, ?_⟩
    rw [empty]
    exact .none
  | @skipped state result other word value members spelled unknown further ih =>
    obtain ⟨given, gives, related⟩ := ih empty
    have different : ¬SpellsChars key.toList word :=
      fun again => unknown (eq_of_spells again spelled ▸ tracks.known)
    exact ⟨given, gives.cons different value, related⟩
  | @filled state result field update word value members spelled known fresh means further ih =>
    by_cases same : field.key = key
    · subst same
      obtain ⟨found, set, meaning⟩ := tracks.sets means rfl state
      obtain ⟨kept, others⟩ := Gathers.keeps tracks further (by rw [set]; rfl)
      refine ⟨some value, .member [] spelled others, ?_⟩
      rw [kept, set]
      exact .some meaning
    · obtain ⟨given, gives, related⟩ := ih ((tracks.keeps means same state).trans empty)
      exact ⟨given, gives.cons (fun again => same (eq_of_spells spelled again)) value, related⟩

/-- Fields without items change nothing. -/
theorem Aligns.eq_of_nil {fields : List (Field σ)} {state result : σ}
    (aligns : Aligns means fields state [] result) : result = state := by
  induction fields with
  | nil =>
    cases aligns
    rfl
  | cons field fields ih =>
    cases aligns with
    | absent _ further => exact ih further

theorem Aligns.keeps (tracks : record.Tracks means key get meaning) {fields : List (Field σ)}
    {state result : σ} {items : List Tree} (aligns : Aligns means fields state items result)
    (others : key ∉ fields.map (·.key)) : get result = get state := by
  induction aligns with
  | nil => rfl
  | item means further ih =>
    rw [List.map_cons, List.mem_cons, not_or] at others
    exact (ih others.2).trans (tracks.keeps means (Ne.symm others.1) _)
  | absent _ further ih =>
    rw [List.map_cons, List.mem_cons, not_or] at others
    exact ih others.2

/-- The item at the place of a field is what the field is filled with. -/
theorem Aligns.gives (tracks : record.Tracks means key get meaning) {fields : List (Field σ)}
    {state result : σ} {items : List Tree} (aligns : Aligns means fields state items result)
    (empty : get state = none) (distinct : (fields.map (·.key)).Nodup) {place : Nat}
    (named : (fields.map (·.key))[place]? = some key) :
    Option.Rel meaning (get result) items[place]? := by
  induction aligns generalizing place with
  | nil => cases named
  | @item field fields state result update value items means further ih =>
    rw [List.map_cons, List.nodup_cons] at distinct
    cases place with
    | zero =>
      obtain rfl : field.key = key := Option.some.inj named
      obtain ⟨found, set, meaning⟩ := tracks.sets means rfl state
      rw [Aligns.keeps tracks further distinct.1, set]
      exact .some meaning
    | succ place =>
      have later : key ∈ fields.map (·.key) := List.mem_of_getElem? named
      have different : field.key ≠ key := fun same => distinct.1 (same ▸ later)
      exact ih ((tracks.keeps means different state).trans empty) distinct.2 named
  | absent _ further ih =>
    rw [Aligns.eq_of_nil further, empty]
    exact .none

theorem Fills.gives {state : σ} {tree : Tree} (fills : record.Fills means state tree)
    (tracks : record.Tracks means key get meaning) (distinct : (record.fields.map (·.key)).Nodup) :
    ∃ given, tree.Gives (record.fields.map (·.key)) key given ∧
      Option.Rel meaning (get state) given := by
  cases fills with
  | object gathers => exact Gathers.gives tracks gathers tracks.initially _
  | @array items aligns =>
    obtain ⟨place, named⟩ := List.getElem?_of_mem tracks.known
    exact ⟨items[place]?, .place named, Aligns.gives tracks aligns tracks.initially distinct named⟩

end Record

/-- A value that can be absent is not there if nothing is given for its key, or `null` is. -/
theorem Perhaps.absent {meaning : β → Tree → Prop} {slot : Option (Option β)} {given : Option Tree}
    (related : Option.Rel (Perhaps meaning) slot given) (absent : slot.join = none) :
    given.getD .null = .null := by
  cases related with
  | none => rfl
  | @some value tree perhaps =>
    cases value with
    | none => exact perhaps
    | some value => cases absent

theorem Perhaps.present {meaning : β → Tree → Prop} {slot : Option (Option β)} {given : Option Tree}
    (related : Option.Rel (Perhaps meaning) slot given) {value : β} (present : slot.join = some value) :
    ∃ tree, given = some tree ∧ meaning value tree := by
  cases related with
  | none => cases present
  | @some found tree perhaps =>
    obtain rfl : found = some value := present
    exact ⟨tree, rfl, perhaps⟩

/-! ### Legible strings -/

/-- What is looked at in a value: all of a plain one, the items of a list, or the keys and the known
members of a record. -/
inductive Schema
  | plain
  | list (item : Schema)
  | record (fields : List (String × Schema))

/-- All strings that are looked at spell characters. In members with other keys, which are passed
over, strings can be any. -/
inductive Legible : Schema → Tree → Prop
  | null {schema : Schema} : Legible schema .null
  | bool {schema : Schema} {value : Bool} : Legible schema (.bool value)
  | number {schema : Schema} {word : List Char} : Legible schema (.number word)
  | string {schema : Schema} {chars word : List Char} (spelled : SpellsChars chars word) :
      Legible schema (.string word)
  | list {item : Schema} {items : List Tree} (each : ∀ tree ∈ items, Legible item tree) :
      Legible (.list item) (.array items)
  | array {fields : List (String × Schema)} {items : List Tree} (few : items.length ≤ fields.length)
      (each : ∀ (place : Nat) (field : String × Schema) (tree : Tree), fields[place]? = some field →
        items[place]? = some tree → Legible field.2 tree) : Legible (.record fields) (.array items)
  | object {fields : List (String × Schema)} {members : List (List Char × Tree)}
      (keys : ∀ member ∈ members, ∃ chars, SpellsChars chars member.1)
      (each : ∀ member ∈ members, ∀ field ∈ fields, SpellsChars field.1.toList member.1 →
        Legible field.2 member.2) : Legible (.record fields) (.object members)

namespace Record

variable {record : Record σ α} {means : String → (σ → σ) → Tree → Prop}

/-- Each member has a key that is no field's, or means an update of its field. -/
theorem Gathers.meaning {state result : σ} {members : List (List Char × Tree)}
    (gathers : record.Gathers means state members result) :
    ∀ member ∈ members, ∃ key, SpellsChars key.toList member.1 ∧
      (key ∈ record.fields.map (·.key) → ∃ update, means key update member.2) := by
  induction gathers with
  | nil => exact fun _ absurdity => absurd absurdity List.not_mem_nil
  | @skipped state result key word value members spelled unknown further ih =>
    rintro member (_ | ⟨_, later⟩)
    · exact ⟨key, spelled, fun known => absurd known unknown⟩
    · exact ih member later
  | @filled state result field update word value members spelled known fresh meaning further ih =>
    rintro member (_ | ⟨_, later⟩)
    · exact ⟨field.key, spelled, fun _ => ⟨update, meaning⟩⟩
    · exact ih member later

/-- Each item means an update of the field at its place. -/
theorem Aligns.meaning {fields : List (Field σ)} {state result : σ} {items : List Tree}
    (aligns : Aligns means fields state items result) :
    items.length ≤ fields.length ∧ ∀ (place : Nat) tree, items[place]? = some tree →
      ∃ field update, fields[place]? = some field ∧ means field.key update tree := by
  induction aligns with
  | nil => exact ⟨Nat.le_refl _, fun _ _ absurdity => by cases absurdity⟩
  | @item field fields state result update value items meaning further ih =>
    refine ⟨Nat.succ_le_succ ih.1, fun place tree there => ?_⟩
    cases place with
    | zero =>
      obtain rfl : value = tree := Option.some.inj there
      exact ⟨field, update, rfl, meaning⟩
    | succ place => exact ih.2 place tree there
  | absent _ further ih => exact ⟨Nat.zero_le _, fun _ _ absurdity => by cases absurdity⟩

/-- A tree that fills a record is legible if what means an update is. -/
theorem Fills.legible {state : σ} {tree : Tree} (fills : record.Fills means state tree)
    {schemas : List (String × Schema)}
    (names : schemas.map (·.1) = record.fields.map (·.key))
    (each : ∀ {key update tree}, means key update tree → ∀ schema, (key, schema) ∈ schemas →
      Legible schema tree) : Legible (.record schemas) tree := by
  cases fills with
  | object gathers =>
    refine .object (fun member there => ?_) fun member there field known spelled => ?_
    · obtain ⟨key, spelled, -⟩ := gathers.meaning member there
      exact ⟨key.toList, spelled⟩
    · obtain ⟨key, own, meaning⟩ := gathers.meaning member there
      obtain rfl := eq_of_spells own spelled
      have named : field.1 ∈ schemas.map (·.1) := List.mem_map_of_mem known
      obtain ⟨update, meaning⟩ := meaning (names ▸ named)
      exact each meaning field.2 known
  | array aligns =>
    obtain ⟨few, meaning⟩ := aligns.meaning
    have same : schemas.length = record.fields.length := by
      simpa using congrArg List.length names
    refine .array (same ▸ few) fun place schema tree named there => ?_
    obtain ⟨field, update, located, meaning⟩ := meaning place tree there
    have key : schema.1 = field.key := by
      have both := congrArg (·[place]?) names
      simpa [named, located] using both
    exact each meaning schema.2 (key ▸ List.mem_of_getElem? named)

theorem Describes.ne_null {made : α} {tree : Tree} (describes : record.Describes means made tree) :
    tree ≠ .null := by
  obtain ⟨state, fills, -⟩ := describes
  rintro rfl
  cases fills

/-- A value is legible as that of a key. -/
def Within (schemas : List (String × Schema)) (key : String) (_ : σ → σ) (tree : Tree) : Prop :=
  ∀ schema, (key, schema) ∈ schemas → Legible schema tree

theorem Describes.legible {schemas : List (String × Schema)}
    (names : schemas.map (·.1) = record.fields.map (·.key)) {made : α} {tree : Tree}
    (describes : record.Describes (Within schemas) made tree) : Legible (.record schemas) tree := by
  obtain ⟨state, fills, -⟩ := describes
  exact fills.legible names fun within => within

/-- A record is read from what is legible for each of its fields. -/
theorem sound_within (schemas : List (String × Schema))
    (each : List.Forall₂ (fun field (entry : String × Schema) => field.key = entry.1 ∧
      Sound field.read fun _ tree => Legible entry.2 tree) record.fields schemas)
    (distinct : (schemas.map (·.1)).Nodup) :
    Sound record.read (record.Describes (Within schemas)) := by
  refine sound_read fun field member => ?_
  obtain ⟨place, short, rfl⟩ := List.getElem_of_mem member
  have there : place < schemas.length := each.length_eq ▸ short
  obtain ⟨named, sound⟩ := each.get short there
  refine sound.mono fun update tree legible schema listed => ?_
  have same := List.inj_on_of_nodup_map distinct (List.get_mem _ _) listed named.symm
  rw [same] at legible
  exact legible

end Record

theorem Tree.Spells.legible {tree : Tree} {value : String} (spells : tree.Spells value)
    (schema : Schema) : Legible schema tree := by
  obtain ⟨word, rfl, spelled⟩ := spells
  exact .string spelled

theorem Perhaps.legible {means : α → Tree → Prop} {schema : Schema}
    (legible : ∀ value tree, means value tree → Legible schema tree) {value : Option α} {tree : Tree}
    (perhaps : Perhaps means value tree) : Legible schema tree := by
  cases value with
  | none =>
    obtain rfl : tree = .null := perhaps
    exact .null
  | some value => exact legible value tree perhaps

/-! ### Readers of what is legible -/

theorem legible_map {reader : Reader α} {schema : Schema} {change : α → β}
    (sound : Sound reader fun _ tree => Legible schema tree) :
    Sound (do let value ← reader; return change value) fun _ tree => Legible schema tree :=
  (sound.map change).mono fun _ _ ⟨_, _, legible⟩ => legible

theorem legible_string (schema : Schema) : Sound Reader.string fun _ tree => Legible schema tree :=
  sound_string.mono fun _ _ spells => spells.legible schema

theorem legible_word (schema : Schema) : Sound Reader.word fun _ tree => Legible schema tree := by
  refine sound_word.mono ?_
  rintro _ _ ⟨digits, rfl, -⟩
  exact .number

theorem legible_optional {reader : Reader α} {schema : Schema}
    (sound : Sound reader fun _ tree => Legible schema tree) :
    Sound (Reader.optional reader) fun _ tree => Legible schema tree :=
  (sound_optional sound).mono fun _ _ perhaps => perhaps.legible fun _ _ legible => legible

theorem legible_list {reader : Reader α} {schema : Schema}
    (sound : Sound reader fun _ tree => Legible schema tree) :
    Sound (Reader.list reader) fun _ tree => Legible (.list schema) tree := by
  refine (sound_list sound).mono ?_
  rintro values _ ⟨items, rfl, each⟩
  refine .list fun tree member => ?_
  obtain ⟨place, short, rfl⟩ := List.getElem_of_mem member
  exact each.get (each.length_eq ▸ short) short

end LanguageServer.Json
