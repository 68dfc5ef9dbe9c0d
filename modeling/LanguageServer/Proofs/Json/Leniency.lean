import Mathlib.Logic.Relation
import LanguageServer.Proofs.Json.Understanding

/-! Members that nothing asks for. An object that a record is read from can gain members with keys that
no field has, wherever it stands in a text and whatever their values; what is read stays the same. -/

namespace LanguageServer.Json

open Reader

/-- A tree gains a member with a key that is no field's, in one of the objects that are read as
records. -/
inductive Gains : Schema → Tree → Tree → Prop
  | here {fields : List (String × Schema)} (before : List (List Char × Tree))
      {after : List (List Char × Tree)} {key : String} {word : List Char} {value : Tree}
      (spelled : SpellsChars key.toList word) (unknown : key ∉ fields.map (·.1)) :
      Gains (.record fields) (.object (before ++ after)) (.object (before ++ (word, value) :: after))
  | member {fields : List (String × Schema)} (before : List (List Char × Tree))
      {after : List (List Char × Tree)} {key : String} {schema : Schema} {word : List Char}
      {value wider : Tree} (known : (key, schema) ∈ fields) (spelled : SpellsChars key.toList word)
      (inner : Gains schema value wider) :
      Gains (.record fields) (.object (before ++ (word, value) :: after))
        (.object (before ++ (word, wider) :: after))
  | place {fields : List (String × Schema)} (before : List Tree) {after : List Tree}
      {field : String × Schema} {value wider : Tree} (located : fields[before.length]? = some field)
      (inner : Gains field.2 value wider) :
      Gains (.record fields) (.array (before ++ value :: after)) (.array (before ++ wider :: after))
  | item {item : Schema} (before : List Tree) {after : List Tree} {value wider : Tree}
      (inner : Gains item value wider) :
      Gains (.list item) (.array (before ++ value :: after)) (.array (before ++ wider :: after))

/-- A reader takes a tree for a value, whatever members it gains. -/
def Withstands (reader : Reader α) (schema : Schema) (value : α) (tree : Tree) : Prop :=
  ∀ wider, Relation.ReflTransGen (Gains schema) tree wider → Understands reader wider value

/-- A reader is lenient: what it takes from a text, it takes for the same value whatever members that
gains. -/
def Lenient (reader : Reader α) (schema : Schema) : Prop :=
  Sound reader (Withstands reader schema)

variable {reader : Reader α} {schema : Schema} {value : α} {tree wider : Tree}

theorem Withstands.understands (withstands : Withstands reader schema value tree) :
    Understands reader tree value :=
  withstands tree .refl

theorem Withstands.gain (withstands : Withstands reader schema value tree)
    (gains : Gains schema tree wider) : Withstands reader schema value wider :=
  fun widest further => withstands widest (.head gains further)

/-- A reader is lenient if what it takes from a text means what it gives, still does with one more
member, and is understood. -/
theorem Sound.lenient {means : α → Tree → Prop} (sound : Sound reader means)
    (closed : ∀ {value tree wider}, means value tree → Gains schema tree wider → means value wider)
    (understood : ∀ {value tree}, means value tree → Understands reader tree value) :
    Lenient reader schema := by
  refine sound.mono fun value tree meaning wider further => understood ?_
  induction further with
  | refl => exact meaning
  | tail _ gains ih => exact closed ih gains

theorem Lenient.map (lenient : Lenient reader schema) (change : α → β) :
    Lenient (do let value ← reader; return change value) schema := by
  refine Sound.mono (Sound.map lenient change) ?_
  rintro _ tree ⟨value, rfl, withstands⟩ wider further
  exact (withstands wider further).map change

/-! ### Words, strings and numbers -/

theorem Sound.lenient_plain {means : α → Tree → Prop} (sound : Sound reader means)
    (understood : ∀ {value tree}, means value tree → Understands reader tree value) :
    Lenient reader .plain :=
  sound.lenient (fun _ gains => by cases gains) understood

theorem lenient_string : Lenient Reader.string .plain :=
  sound_string.lenient_plain understands_string

theorem lenient_word : Lenient word .plain :=
  sound_word.lenient_plain understands_word

theorem lenient_boolean : Lenient boolean .plain := by
  refine sound_boolean.lenient_plain ?_
  rintro value _ rfl
  exact understands_boolean value

/-- A value that may be `null` is read leniently if it is not `null` that it is read from. -/
theorem lenient_optional (lenient : Lenient reader schema)
    (refused : ∀ value, ¬Understands reader .null value) : Lenient (Reader.optional reader) schema := by
  refine (sound_optional lenient).lenient ?_ ?_
  · intro value tree wider perhaps gains
    cases value with
    | none =>
      obtain rfl : tree = .null := perhaps
      cases gains
    | some value => exact Withstands.gain perhaps gains
  · intro value tree perhaps
    cases value with
    | none =>
      obtain rfl : tree = .null := perhaps
      exact understands_absent reader
    | some value =>
      have understands := Withstands.understands perhaps
      refine understands_present understands ?_
      rintro rfl
      exact refused value understands

theorem refuses_null {next : Option Char → Reader α} {expected : String}
    (found : next (some 'n') = unexpected expected) (value : α) :
    ¬Understands (peekToken >>= next) .null value := by
  intro understands
  have read := understands _ _ [] (.refl _) .null ends_nil
  rw [token_head (.refl _) rfl found] at read
  exact hopeless_unexpected _ _ _ read

/-! ### Lists -/

theorem forall₂_replace {relation : α → β → Prop} {values : List α} {before after : List β}
    {old new : β} (each : List.Forall₂ relation values (before ++ old :: after))
    (keeps : ∀ value, relation value old → relation value new) :
    List.Forall₂ relation values (before ++ new :: after) := by
  induction before generalizing values with
  | nil =>
    cases each with
    | cons first further => exact .cons (keeps _ first) further
  | cons item before ih =>
    cases each with
    | cons first further => exact .cons first (ih further)

theorem lenient_list (lenient : Lenient reader schema) : Lenient (list reader) (.list schema) := by
  refine (sound_list lenient).lenient ?_ ?_
  · rintro values _ wider ⟨items, rfl, each⟩ gains
    cases gains with
    | item before inner =>
      exact ⟨_, rfl, forall₂_replace each fun _ withstands => withstands.gain inner⟩
  · rintro values _ ⟨items, rfl, each⟩
    exact understands_list (each.imp fun _ _ withstands => withstands.understands)

/-! ### Records -/

namespace Record

variable {record : Record σ α} {means : String → (σ → σ) → Tree → Prop}

/-- A member with a key that is no field's is passed over wherever it stands. -/
theorem Gathers.insert {state result : σ} {before after : List (List Char × Tree)} {key : String}
    {word : List Char} (gathers : record.Gathers means state (before ++ after) result)
    (spelled : SpellsChars key.toList word) (unknown : key ∉ record.fields.map (·.key))
    (value : Tree) : record.Gathers means state (before ++ (word, value) :: after) result := by
  induction before generalizing state with
  | nil => exact .skipped spelled unknown gathers
  | cons member before ih =>
    cases gathers with
    | skipped spelled unknown further => exact .skipped spelled unknown (ih further)
    | filled spelled known fresh meaning further =>
      exact .filled spelled known fresh meaning (ih further)

/-- The value of a member may be another one that means the same. -/
theorem Gathers.replace {state result : σ} {before after : List (List Char × Tree)}
    {word : List Char} {value wider : Tree}
    (gathers : record.Gathers means state (before ++ (word, value) :: after) result)
    (keeps : ∀ key update, SpellsChars key.toList word → means key update value →
      means key update wider) :
    record.Gathers means state (before ++ (word, wider) :: after) result := by
  induction before generalizing state with
  | nil =>
    cases gathers with
    | skipped spelled unknown further => exact .skipped spelled unknown further
    | filled spelled known fresh meaning further =>
      exact .filled spelled known fresh (keeps _ _ spelled meaning) further
  | cons member before ih =>
    cases gathers with
    | skipped spelled unknown further => exact .skipped spelled unknown (ih further)
    | filled spelled known fresh meaning further =>
      exact .filled spelled known fresh meaning (ih further)

theorem Aligns.replace {fields : List (Field σ)} {state result : σ} {before after : List Tree}
    {value wider : Tree} (aligns : Aligns means fields state (before ++ value :: after) result)
    (keeps : ∀ field update, fields[before.length]? = some field → means field.key update value →
      means field.key update wider) :
    Aligns means fields state (before ++ wider :: after) result := by
  induction before generalizing fields state with
  | nil =>
    cases aligns with
    | item meaning further => exact .item (keeps _ _ rfl meaning) further
  | cons item before ih =>
    cases aligns with
    | item meaning further => exact .item meaning (ih further keeps)

/-- What fills a field, whatever members it gains. -/
def Keeps (record : Record σ α) (schemas : List (String × Schema)) (key : String) (update : σ → σ)
    (tree : Tree) : Prop :=
  ∀ field ∈ record.fields, field.key = key → ∀ schema, (key, schema) ∈ schemas →
    Withstands field.read schema update tree

/-- A record is read leniently if its fields are. -/
theorem lenient_read (schemas : List (String × Schema))
    (each : List.Forall₂ (fun field (entry : String × Schema) => field.key = entry.1 ∧
      Lenient field.read entry.2) record.fields schemas)
    (distinct : (schemas.map (·.1)).Nodup) : Lenient record.read (.record schemas) := by
  have names : record.fields.map (·.key) = schemas.map (·.1) := by
    refine List.forall₂_eq_eq_eq ▸ ?_
    rw [List.forall₂_map_left_iff, List.forall₂_map_right_iff]
    exact each.imp fun _ _ both => both.1
  have keysDistinct : (record.fields.map (·.key)).Nodup := names ▸ distinct
  have unique : ∀ {key : String} {schema other : Schema}, (key, schema) ∈ schemas →
      (key, other) ∈ schemas → schema = other := by
    intro key schema other listed again
    have same := List.inj_on_of_nodup_map distinct listed again rfl
    exact congrArg Prod.snd same
  have sound : ∀ field ∈ record.fields, Sound field.read (record.Keeps schemas field.key) := by
    intro field member
    obtain ⟨place, short, rfl⟩ := List.getElem_of_mem member
    have there : place < schemas.length := each.length_eq ▸ short
    obtain ⟨named, lenient⟩ := each.get short there
    refine Sound.mono lenient fun update tree withstands other listed same schema known => ?_
    obtain rfl := List.inj_on_of_nodup_map keysDistinct listed member same
    have entry : (record.fields[place].key, (schemas.get ⟨place, there⟩).2) ∈ schemas :=
      named ▸ List.get_mem _ _
    exact unique entry known ▸ withstands
  refine (sound_read sound).lenient ?_ ?_
  · -- The member that is gained is passed over, or stands in the value of a field that withstands it.
    rintro made tree wider ⟨state, fills, built⟩ gains
    refine ⟨state, ?_, built⟩
    cases gains with
    | here before spelled unknown =>
      cases fills with
      | object gathers => exact .object (gathers.insert spelled (names ▸ unknown) _)
    | member before known spelled inner =>
      cases fills with
      | object gathers =>
        refine .object (gathers.replace fun key update again keeps => ?_)
        obtain rfl := eq_of_spells again spelled
        intro field member same schema listed
        obtain rfl := unique known listed
        exact (keeps field member same _ listed).gain inner
    | @place _ before _ entry _ _ located inner =>
      cases fills with
      | array aligns =>
        refine .array (aligns.replace fun field update placed keeps => ?_)
        have named : field.key = entry.1 := by
          have both := congrArg (·[before.length]?) names
          simpa [placed, located] using both
        intro other member same schema listed
        have own : (field.key, entry.2) ∈ schemas := named ▸ List.mem_of_getElem? located
        obtain rfl := unique own listed
        exact (keeps other member same _ listed).gain inner
  · intro made tree describes
    refine understands_read (fun field member update tree keeps => ?_) keysDistinct describes
    have named : field.key ∈ schemas.map (·.1) := names ▸ List.mem_map_of_mem member
    obtain ⟨entry, listed, same⟩ := List.mem_map.mp named
    exact (keeps field member rfl entry.2 (same ▸ listed)).understands

end Record

end LanguageServer.Json
