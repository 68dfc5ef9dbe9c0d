import LanguageServer.Proofs.Json.Skipping

/-! What readers of values make of what is written. A reader is sound if it takes space and one value
of the grammar from a text, and if that value means what it gives. -/

namespace LanguageServer.Json

open Reader

/-- A reader takes space and a value from a text, and gives what the value means. -/
def Sound (reader : Reader α) (means : α → Tree → Prop) : Prop :=
  ∀ text value rest, reader text = .ok (value, rest) →
    ∃ start tree, Spaced text start ∧ Written tree start rest ∧ means value tree

theorem Sound.map {reader : Reader α} {means : α → Tree → Prop} (sound : Sound reader means)
    (change : α → β) :
    Sound (do let value ← reader; return change value)
      fun result tree => ∃ value, change value = result ∧ means value tree := by
  intro text result rest read
  obtain ⟨value, between, first, finished⟩ := bind_eq_ok read
  obtain ⟨rfl, rfl⟩ := pure_eq_ok finished
  obtain ⟨start, tree, spaced, written, meaning⟩ := sound text value between first
  exact ⟨start, tree, spaced, written, value, rfl, meaning⟩

theorem Sound.mono {reader : Reader α} {means implied : α → Tree → Prop}
    (sound : Sound reader means) (implies : ∀ value tree, means value tree → implied value tree) :
    Sound reader implied := by
  intro text value rest read
  obtain ⟨start, tree, spaced, written, meaning⟩ := sound text value rest read
  exact ⟨start, tree, spaced, written, implies value tree meaning⟩

/-! ### Readers that only meet faults -/

/-- A reader that gives nothing, whatever the text. -/
def Hopeless (reader : Reader α) : Prop :=
  ∀ text result, reader text ≠ .ok result

theorem hopeless_fail (fault : Fault) : Hopeless (fail fault : Reader α) :=
  fun _ _ => fail_ne_ok

theorem hopeless_bind {reader : Reader α} {next : α → Reader β} (each : ∀ value, Hopeless (next value)) :
    Hopeless (reader >>= next) := by
  rintro text ⟨value, rest⟩ read
  obtain ⟨first, between, -, further⟩ := bind_eq_ok read
  exact each first between _ further

theorem hopeless_number {negative : Bool} {next : Number → Reader α}
    (integer : ∀ value, Hopeless (next (.integer value)))
    (float : ∀ bits, Hopeless (next (.float bits))) : Hopeless (Reader.number negative >>= next) := by
  refine hopeless_bind fun found => ?_
  cases found with
  | integer value => exact integer value
  | float bits => exact float bits

theorem hopeless_unexpected (expected : String) : Hopeless (unexpected expected : Reader α) := by
  refine hopeless_bind fun first => ?_
  split
  · exact hopeless_bind fun _ => hopeless_bind fun _ => hopeless_fail _
  · exact hopeless_bind fun _ => hopeless_bind fun _ => hopeless_fail _
  · exact hopeless_bind fun _ => hopeless_bind fun _ => hopeless_fail _
  · exact hopeless_bind fun _ => hopeless_bind fun _ => hopeless_fail _
  · exact hopeless_fail _
  · exact hopeless_fail _
  · split
    · dsimp only
      split
      · refine hopeless_bind fun _ => ?_
        exact hopeless_number (fun _ => hopeless_fail _) fun _ => hopeless_fail _
      · exact hopeless_number (fun _ => hopeless_fail _) fun _ => hopeless_fail _
    · exact hopeless_fail _
  · exact hopeless_fail _

/-! ### Words, strings and numbers -/

/-- A tree is a string that spells a value. -/
def Tree.Spells (tree : Tree) (value : String) : Prop :=
  ∃ word, tree = .string word ∧ SpellsChars value.toList word

theorem sound_string : Sound Reader.string fun value tree => tree.Spells value := by
  intro text value rest read
  obtain ⟨c, tail, reader, spaced, found, further⟩ := token_some rfl read
  split at found
  · rename_i absurdity
    cases absurdity
  · rename_i same
    obtain rfl := Option.some.inj same
    subst found
    obtain ⟨word, rfl, spelled⟩ := stringTail_eq_ok (advance_bind '"' tail ▸ further)
    exact ⟨_, _, spaced, .string spelled.isCharacters, word, rfl, spelled⟩
  · subst found
    exact absurd further (hopeless_unexpected _ _ _)

theorem sound_boolean : Sound boolean fun value tree => tree = .bool value := by
  intro text value rest read
  obtain ⟨c, tail, reader, spaced, found, further⟩ := token_some rfl read
  split at found
  · rename_i absurdity
    cases absurdity
  · rename_i same
    obtain rfl := Option.some.inj same
    subst found
    obtain ⟨rfl, rfl⟩ := word_eq_ok further
    exact ⟨_, _, spaced, .yes, rfl⟩
  · rename_i same
    obtain rfl := Option.some.inj same
    subst found
    obtain ⟨rfl, rfl⟩ := word_eq_ok further
    exact ⟨_, _, spaced, .no, rfl⟩
  · subst found
    exact absurd further (hopeless_unexpected _ _ _)

/-- A tree is a number that has digits only, and whose value fits in 32 bits. -/
def Tree.Counts (tree : Tree) (value : Nat) : Prop :=
  ∃ digits, tree = .number digits ∧ IsWhole digits ∧ Nat.ofDigitChars 10 digits 0 = value ∧
    value < Nat.pow 2 32

/-- An integer that is taken for a natural number of 32 bits has no sign. -/
theorem word_integer {negative : Bool} {start between rest : List Char} {found : Int} {value : Nat}
    (read : Reader.number negative start = .ok (.integer found, between))
    (taken : (if 0 ≤ found ∧ found < Int.pow 2 32 then pure found.toNat
      else fail (.wrongValue (.integer found) "u32") : Reader Nat) between = .ok (value, rest)) :
    negative = false ∧ ∃ digits, start = digits ++ rest ∧ IsWhole digits ∧
      Nat.ofDigitChars 10 digits 0 = value ∧ value < Nat.pow 2 32 := by
  split at taken
  · rename_i fits
    obtain ⟨rfl, rfl⟩ := pure_eq_ok taken
    have same : (found.toNat : Int) = found := Int.toNat_of_nonneg fits.1
    rw [← same] at read fits
    obtain ⟨unsigned, digits, split, isWhole, counted, -⟩ := number_natural read
    exact ⟨unsigned, digits, split, isWhole, counted, Int.ofNat_lt.mp fits.2⟩
  · exact absurd taken fail_ne_ok

theorem sound_word : Sound word fun value tree => tree.Counts value := by
  intro text value rest read
  obtain ⟨c, tail, reader, spaced, found, further⟩ := token_some rfl read
  dsimp only at found
  split at found
  · split at found
    · rename_i minus
      subst found minus
      obtain ⟨number, between, numberRead, last⟩ := bind_eq_ok (advance_bind '-' tail ▸ further)
      cases number with
      | float bits => exact absurd last fail_ne_ok
      | integer number =>
        obtain ⟨absurdity, -⟩ := word_integer numberRead last
        cases absurdity
    · subst found
      obtain ⟨number, between, numberRead, last⟩ := bind_eq_ok further
      cases number with
      | float bits => exact absurd last fail_ne_ok
      | integer number =>
        obtain ⟨-, digits, same, isWhole, counted, small⟩ := word_integer numberRead last
        rw [same] at spaced
        exact ⟨_, _, spaced, isWhole.written rest, digits, rfl, isWhole, counted, small⟩
  · subst found
    exact absurd further (hopeless_unexpected _ _ _)

/-- A value that can be absent: it is not there if `null` stands in its place. -/
def Perhaps (means : α → Tree → Prop) : Option α → Tree → Prop
  | none, tree => tree = .null
  | some value, tree => means value tree

theorem sound_optional {reader : Reader α} {means : α → Tree → Prop} (sound : Sound reader means) :
    Sound (Reader.optional reader) (Perhaps means) := by
  intro text value rest read
  have other : ∀ start, Spaced text start →
      (some <$> reader : Reader (Option α)) start = .ok (value, rest) →
      ∃ start tree, Spaced text start ∧ Written tree start rest ∧ Perhaps means value tree := by
    intro start spaced mapped
    obtain ⟨present, valueRead, rfl⟩ := map_eq_ok mapped
    obtain ⟨begins, tree, further, written, meaning⟩ := sound start present rest valueRead
    exact ⟨begins, tree, spaced.trans further, written, meaning⟩
  obtain ⟨spaced, ended⟩ | ⟨c, tail, reader, spaced, found, further⟩ := token_cases read
  · exact other [] spaced ended
  · split at found
    · rename_i same
      obtain rfl := Option.some.inj same
      subst found
      obtain ⟨rfl, rfl⟩ := word_eq_ok further
      exact ⟨_, _, spaced, .null, rfl⟩
    · subst found
      exact other _ spaced further

/-! ### Lists -/

theorem nextItem_eq_ok {first more : Bool} {text rest : List Char}
    (read : nextItem first text = .ok (more, rest)) :
    (true = more ∧ Separated first text rest) ∨
      (false = more ∧ Spaced text rest ∧ ∃ tail, rest = ']' :: tail) := by
  obtain ⟨c, tail, reader, spaced, found, further⟩ := token_some rfl read
  split at found
  · rename_i absurdity
    cases absurdity
  · rename_i same
    obtain rfl := Option.some.inj same
    subst found
    obtain ⟨same, rfl⟩ := pure_eq_ok further
    exact .inr ⟨same, spaced, tail, rfl⟩
  · rename_i same
    obtain rfl := Option.some.inj same
    left
    cases first with
    | true =>
      subst found
      obtain ⟨same, rfl⟩ := pure_eq_ok further
      exact ⟨same, spaced⟩
    | false =>
      rw [if_neg Bool.false_ne_true] at found
      subst found
      obtain ⟨d, after, reader, spacedAfter, found, further⟩ :=
        token_some rfl (advance_bind ',' tail ▸ further)
      split at found
      · rename_i absurdity
        cases absurdity
      · subst found
        exact absurd further fail_ne_ok
      · subst found
        obtain ⟨same, rfl⟩ := pure_eq_ok further
        exact ⟨same, tail, spaced, spacedAfter⟩
  · left
    cases first with
    | true =>
      subst found
      obtain ⟨same, rfl⟩ := pure_eq_ok further
      exact ⟨same, spaced⟩
    | false =>
      rw [if_neg Bool.false_ne_true] at found
      subst found
      exact absurd further fail_ne_ok

theorem endOfList_eq_ok {text rest : List Char} {value : Unit}
    (read : endOfList text = .ok (value, rest)) : Spaced text (']' :: rest) := by
  obtain ⟨c, tail, reader, spaced, found, further⟩ := token_some rfl read
  split at found
  · rename_i absurdity
    cases absurdity
  · rename_i same
    obtain rfl := Option.some.inj same
    subst found
    cases further
    exact spaced
  · have hopeless : Hopeless reader := by
      subst found
      refine hopeless_bind fun _ => hopeless_bind fun next => ?_
      split <;> exact hopeless_fail _
    exact absurd further (hopeless _ _)
  · subst found
    exact absurd further fail_ne_ok

theorem itemStep_eq_ok {reader : Reader α} {means : α → Tree → Prop} (sound : Sound reader means)
    {found : List α} {text between : List Char} {result : Option (List α)}
    (read : itemStep reader found text = .ok (result, between)) :
    (∃ value start tree, some (value :: found) = result ∧ Separated found.isEmpty text start ∧
        Written tree start between ∧ means value tree) ∨
      none = result ∧ Spaced text between := by
  obtain ⟨more, start, follows, further⟩ := bind_eq_ok read
  obtain ⟨rfl, separated⟩ | ⟨rfl, spaced, -⟩ := nextItem_eq_ok follows
  · obtain ⟨value, after, valueRead, finished⟩ := bind_eq_ok further
    obtain ⟨same, rfl⟩ := pure_eq_ok finished
    obtain ⟨begins, tree, spaced, written, meaning⟩ := sound start value after valueRead
    exact .inl ⟨value, begins, tree, same, separated.trans spaced, written, meaning⟩
  · obtain ⟨same, rfl⟩ := pure_eq_ok further
    exact .inr ⟨same, spaced⟩

/-- The items of a list are written one after the other, and mean what is found. -/
theorem items_eq_ok {reader : Reader α} {means : α → Tree → Prop} (sound : Sound reader means)
    {found result : List α} {text rest : List Char}
    (read : iterate (itemStep reader) found text = .ok (result, rest)) :
    ∃ values items after, result = values.reverse ++ found ∧ List.Forall₂ means values items ∧
      WrittenItems found.isEmpty items text after ∧ Spaced after rest := by
  refine iterate_induction (motive := fun found text result rest =>
    ∃ values items after, result = values.reverse ++ found ∧ List.Forall₂ means values items ∧
      WrittenItems found.isEmpty items text after ∧ Spaced after rest) ?_ ?_ ?_ read
  · intro found text rest stopped
    obtain ⟨_, _, _, absurdity, -⟩ | ⟨-, spaced⟩ := itemStep_eq_ok sound stopped
    · cases absurdity
    · exact ⟨[], [], text, rfl, .nil, .nil, spaced⟩
  · rintro found text later between result rest went ⟨values, items, after, rfl, meanings, listed, gap⟩
    obtain ⟨value, start, tree, ⟨⟩, separated, written, meaning⟩ | ⟨absurdity, -⟩ :=
      itemStep_eq_ok sound went
    · exact ⟨value :: values, tree :: items, after, by simp, .cons meaning meanings,
        .cons separated written listed, gap⟩
    · cases absurdity
  · intro found text later between went
    obtain ⟨value, start, tree, -, separated, written, -⟩ | ⟨absurdity, -⟩ :=
      itemStep_eq_ok sound went
    · exact Nat.lt_of_lt_of_le written.length_lt separated.length_le
    · cases absurdity

theorem sound_list {reader : Reader α} {means : α → Tree → Prop} (sound : Sound reader means) :
    Sound (list reader) fun values tree =>
      ∃ items, tree = .array items ∧ List.Forall₂ means values items := by
  intro text value rest read
  obtain ⟨c, tail, made, spaced, found, further⟩ := token_some rfl read
  split at found
  · rename_i absurdity
    cases absurdity
  · rename_i same
    obtain rfl := Option.some.inj same
    subst found
    obtain ⟨reversed, between, looped, finished⟩ := bind_eq_ok (advance_bind '[' tail ▸ further)
    obtain ⟨_, left, ended, finished⟩ := bind_eq_ok finished
    obtain ⟨rfl, rfl⟩ := pure_eq_ok finished
    obtain ⟨values, items, after, rfl, meanings, listed, gap⟩ := items_eq_ok sound looped
    refine ⟨_, _, spaced, .array listed (gap.trans (endOfList_eq_ok ended)), items, rfl, ?_⟩
    simpa using meanings
  · subst found
    exact absurd further (hopeless_unexpected _ _ _)

/-! ### Objects -/

theorem nextKey_eq_ok {first more : Bool} {text rest : List Char}
    (read : nextKey first text = .ok (more, rest)) :
    (true = more ∧ Separated first text ('"' :: rest)) ∨ (false = more ∧ Spaced text rest) := by
  obtain ⟨c, tail, reader, spaced, found, further⟩ := token_some rfl read
  split at found
  · rename_i absurdity
    cases absurdity
  · subst found
    obtain ⟨same, rfl⟩ := pure_eq_ok further
    exact .inr ⟨same, spaced⟩
  · rename_i same
    obtain rfl := Option.some.inj same
    left
    cases first with
    | true =>
      rw [if_pos rfl] at found
      split at found
      · rename_i quote
        subst found quote
        obtain ⟨same, rfl⟩ := pure_eq_ok (advance_bind '"' tail ▸ further)
        exact ⟨same, spaced⟩
      · subst found
        exact absurd further fail_ne_ok
    | false =>
      rw [if_neg Bool.false_ne_true] at found
      split at found
      · rename_i comma
        subst found comma
        obtain ⟨d, after, reader, spacedAfter, found, further⟩ :=
          token_some rfl (advance_bind ',' tail ▸ further)
        split at found
        · rename_i absurdity
          cases absurdity
        · rename_i same
          obtain rfl := Option.some.inj same
          subst found
          obtain ⟨same, rfl⟩ := pure_eq_ok (advance_bind '"' after ▸ further)
          exact ⟨same, tail, spaced, spacedAfter⟩
        · subst found
          exact absurd further fail_ne_ok
        · subst found
          exact absurd further fail_ne_ok
      · subst found
        exact absurd further fail_ne_ok

theorem endOfObject_eq_ok {text rest : List Char} {value : Unit}
    (read : endOfObject text = .ok (value, rest)) : Spaced text ('\x7d' :: rest) := by
  obtain ⟨c, tail, reader, spaced, found, further⟩ := token_some rfl read
  split at found
  · rename_i absurdity
    cases absurdity
  · rename_i same
    obtain rfl := Option.some.inj same
    subst found
    cases further
    exact spaced
  · subst found
    exact absurd further fail_ne_ok
  · subst found
    exact absurd further fail_ne_ok

/-! ### Records -/

namespace Record

variable {record : Record σ α} {means : String → (σ → σ) → Tree → Prop}

/-- Members of an object fill the fields of a record, each field once; members with other keys are
passed over. -/
inductive Gathers (record : Record σ α) (means : String → (σ → σ) → Tree → Prop) :
    σ → List (List Char × Tree) → σ → Prop
  | nil {state : σ} : Gathers record means state [] state
  | skipped {state result : σ} {key : String} {word : List Char} {value : Tree}
      {members : List (List Char × Tree)} (spelled : SpellsChars key.toList word)
      (unknown : key ∉ record.fields.map (·.key))
      (further : Gathers record means state members result) :
      Gathers record means state ((word, value) :: members) result
  | filled {state result : σ} {field : Field σ} {update : σ → σ} {word : List Char} {value : Tree}
      {members : List (List Char × Tree)} (spelled : SpellsChars field.key.toList word)
      (known : field ∈ record.fields) (fresh : field.filled state = false)
      (meaning : means field.key update value)
      (further : Gathers record means (update state) members result) :
      Gathers record means state ((word, value) :: members) result

/-- Items of a list fill fields in their order. Only fields at the end may have none, and
only those that may be omitted. -/
inductive Aligns (means : String → (σ → σ) → Tree → Prop) :
    List (Field σ) → σ → List Tree → σ → Prop
  | nil {state : σ} : Aligns means [] state [] state
  | item {field : Field σ} {fields : List (Field σ)} {state result : σ} {update : σ → σ}
      {value : Tree} {items : List Tree} (meaning : means field.key update value)
      (further : Aligns means fields (update state) items result) :
      Aligns means (field :: fields) state (value :: items) result
  | absent {field : Field σ} {fields : List (Field σ)} {state result : σ}
      (omissible : field.omissible = true) (further : Aligns means fields state [] result) :
      Aligns means (field :: fields) state [] result

/-- A tree fills the fields of a record: an object with their keys, or a list of their values. -/
inductive Fills (record : Record σ α) (means : String → (σ → σ) → Tree → Prop) (state : σ) :
    Tree → Prop
  | object {members : List (List Char × Tree)}
      (gathers : record.Gathers means record.empty members state) :
      Fills record means state (.object members)
  | array {items : List Tree} (aligns : Aligns means record.fields record.empty items state) :
      Fills record means state (.array items)

/-- A tree describes a record that can be made of the fields it fills. -/
def Describes (record : Record σ α) (means : String → (σ → σ) → Tree → Prop) (made : α)
    (tree : Tree) : Prop :=
  ∃ state, record.Fills means state tree ∧ record.build state = .ok made

theorem finish_eq_ok {state : σ} {made : α} {text rest : List Char}
    (read : record.finish state text = .ok (made, rest)) :
    record.build state = .ok made ∧ text = rest := by
  unfold finish at read
  cases built : record.build state with
  | ok built =>
    rw [built] at read
    obtain ⟨rfl, rfl⟩ := pure_eq_ok read
    exact ⟨rfl, rfl⟩
  | error fault =>
    rw [built] at read
    exact absurd read fail_ne_ok

theorem readItems_end {fields : List (Field σ)} {count : Nat} {first : Bool} {state result : σ}
    {tail rest : List Char}
    (read : record.readItems fields count first state (']' :: tail) = .ok (result, rest)) :
    Aligns means fields state [] result ∧ ']' :: tail = rest := by
  induction fields generalizing count state with
  | nil =>
    obtain ⟨rfl, rfl⟩ := pure_eq_ok read
    exact ⟨.nil, rfl⟩
  | cons field fields ih =>
    have ended : nextItem first (']' :: tail) = .ok (false, ']' :: tail) :=
      nextItem_end first isSpacing_nil
    rw [readItems, bind_ok ended, if_neg Bool.false_ne_true] at read
    split at read
    · rename_i omissible
      obtain ⟨aligns, same⟩ := ih read
      exact ⟨.absent omissible aligns, same⟩
    · exact absurd read fail_ne_ok

theorem readItems_eq_ok {fields : List (Field σ)}
    (sound : ∀ field ∈ fields, Sound field.read (means field.key)) {count : Nat} {first : Bool}
    {state result : σ} {text rest : List Char}
    (read : record.readItems fields count first state text = .ok (result, rest)) :
    ∃ items after, Aligns means fields state items result ∧ WrittenItems first items text after ∧
      Spaced after rest := by
  induction fields generalizing count first state text with
  | nil =>
    obtain ⟨rfl, rfl⟩ := pure_eq_ok read
    exact ⟨[], text, .nil, .nil, .refl text⟩
  | cons field fields ih =>
    obtain ⟨more, start, follows, further⟩ := bind_eq_ok read
    obtain ⟨rfl, separated⟩ | ⟨rfl, spaced, tail, rfl⟩ := nextItem_eq_ok follows
    · rw [if_pos rfl] at further
      obtain ⟨update, between, valueRead, further⟩ := bind_eq_ok further
      obtain ⟨begins, tree, spaced, written, meaning⟩ :=
        sound field List.mem_cons_self start update between valueRead
      obtain ⟨items, after, aligns, listed, gap⟩ :=
        ih (fun field member => sound field (List.mem_cons_of_mem _ member)) further
      exact ⟨tree :: items, after, .item meaning aligns,
        .cons (separated.trans spaced) written listed, gap⟩
    · rw [if_neg Bool.false_ne_true] at further
      split at further
      · -- The list has ended, so that all further fields are without items.
        rename_i omissible
        obtain ⟨aligns, rfl⟩ := readItems_end further
        exact ⟨[], text, .absent omissible aligns, .nil, spaced⟩
      · exact absurd further fail_ne_ok

/-- A member that is read is that of a field which has no value yet, or is passed over. -/
theorem readMember_eq_ok (sound : ∀ field ∈ record.fields, Sound field.read (means field.key))
    {key : String} {state later : σ} {text rest : List Char}
    (read : record.readMember key state text = .ok (later, rest)) :
    ∃ more start tree, Spaced text (':' :: more) ∧ Spaced more start ∧ Written tree start rest ∧
      ∀ word members result, SpellsChars key.toList word → record.Gathers means later members result →
        record.Gathers means state ((word, tree) :: members) result := by
  unfold readMember at read
  cases known : record.fields.find? (·.key == key) with
  | none =>
    have unknown : key ∉ record.fields.map (·.key) := by
      intro named
      obtain ⟨field, member, same⟩ := List.mem_map.mp named
      exact List.find?_eq_none.mp known field member (beq_iff_eq.mpr same)
    rw [known] at read
    obtain ⟨_, more, colonRead, further⟩ := bind_eq_ok read
    obtain ⟨_, between, skipped, finished⟩ := bind_eq_ok further
    obtain ⟨rfl, rfl⟩ := pure_eq_ok finished
    obtain ⟨start, tree, spaced, written⟩ := skip_eq_ok skipped
    exact ⟨more, start, tree, colon_eq_ok colonRead, spaced, written,
      fun _ _ _ spelled gathers => .skipped spelled unknown gathers⟩
  | some field =>
    have same : field.key = key := by simpa using List.find?_some known
    have member := List.mem_of_find?_eq_some known
    rw [known] at read
    dsimp only at read
    split at read
    · exact absurd read fail_ne_ok
    · rename_i fresh
      obtain ⟨_, more, colonRead, further⟩ := bind_eq_ok read
      obtain ⟨update, between, valueRead, finished⟩ := bind_eq_ok further
      obtain ⟨rfl, rfl⟩ := pure_eq_ok finished
      obtain ⟨start, tree, spaced, written, meaning⟩ :=
        sound field member more update between valueRead
      exact ⟨more, start, tree, colon_eq_ok colonRead, spaced, written,
        fun _ _ _ spelled gathers =>
          .filled (same ▸ spelled) member (eq_false_of_ne_true fresh) meaning gathers⟩

/-- A member is written after what separates it, or there is none. -/
theorem memberStep_eq_ok (sound : ∀ field ∈ record.fields, Sound field.read (means field.key))
    {state : σ} {first : Bool} {text between : List Char} {result : Option (σ × Bool)}
    (read : record.memberStep (state, first) text = .ok (result, between)) :
    (∃ later word value, some (later, false) = result ∧
        (∀ members rest, WrittenMembers false members between rest →
          WrittenMembers first ((word, value) :: members) text rest) ∧
        ∀ members final, record.Gathers means later members final →
          record.Gathers means state ((word, value) :: members) final) ∨
      none = result ∧ Spaced text between := by
  obtain ⟨more, start, follows, further⟩ := bind_eq_ok read
  obtain ⟨rfl, separated⟩ | ⟨rfl, spaced⟩ := nextKey_eq_ok follows
  · obtain ⟨key, after, keyRead, further⟩ := bind_eq_ok further
    obtain ⟨later, left, memberRead, finished⟩ := bind_eq_ok further
    obtain ⟨same, rfl⟩ := pure_eq_ok finished
    obtain ⟨word, rfl, spelled⟩ := stringTail_eq_ok keyRead
    obtain ⟨more, begins, tree, toColon, toValue, written, gathers⟩ :=
      readMember_eq_ok sound memberRead
    exact .inl ⟨later, word, tree, same,
      fun _ _ listed => .cons separated spelled.isCharacters ⟨more, toColon, toValue⟩ written listed,
      fun members final => gathers word members final spelled⟩
  · obtain ⟨same, rfl⟩ := pure_eq_ok further
    exact .inr ⟨same, spaced⟩

theorem readMembers_eq_ok (sound : ∀ field ∈ record.fields, Sound field.read (means field.key))
    {result : σ} {text rest : List Char}
    (read : record.readMembers text = .ok (result, rest)) :
    ∃ members after, record.Gathers means record.empty members result ∧
      WrittenMembers true members text after ∧ Spaced after rest := by
  rw [readMembers_eq] at read
  obtain ⟨⟨state, first⟩, between, looped, finished⟩ := bind_eq_ok read
  obtain ⟨rfl, rfl⟩ := pure_eq_ok finished
  refine iterate_induction (motive := fun start text final rest =>
    ∃ members after, record.Gathers means start.1 members final.1 ∧
      WrittenMembers start.2 members text after ∧ Spaced after rest) ?_ ?_ ?_ looped
  · rintro ⟨state, first⟩ text rest stopped
    obtain ⟨_, _, _, absurdity, -⟩ | ⟨-, spaced⟩ := memberStep_eq_ok sound stopped
    · cases absurdity
    · exact ⟨[], text, .nil, .nil, spaced⟩
  · rintro ⟨state, first⟩ text later between final rest went ⟨members, after, gathers, listed, gap⟩
    obtain ⟨later, word, value, ⟨⟩, written, gathered⟩ | ⟨absurdity, -⟩ := memberStep_eq_ok sound went
    · exact ⟨(word, value) :: members, after, gathered _ _ gathers, written _ _ listed, gap⟩
    · cases absurdity
  · rintro ⟨state, first⟩ text later between went
    obtain ⟨later, word, value, ⟨⟩, written, -⟩ | ⟨absurdity, -⟩ := memberStep_eq_ok sound went
    · exact (written [] between .nil).length_add_le
    · cases absurdity

/-- A record is read from an object or a list that describes it, if its fields are read from values
that mean their updates. -/
theorem sound_read (sound : ∀ field ∈ record.fields, Sound field.read (means field.key)) :
    Sound record.read (record.Describes means) := by
  intro text made rest read
  obtain ⟨c, tail, reader, spaced, found, further⟩ := token_some rfl read
  split at found
  · rename_i absurdity
    cases absurdity
  · rename_i same
    obtain rfl := Option.some.inj same
    subst found
    obtain ⟨state, between, itemsRead, further⟩ := bind_eq_ok (advance_bind '[' tail ▸ further)
    obtain ⟨_, left, finished, further⟩ := bind_eq_ok further
    obtain ⟨_, after, ended, last⟩ := bind_eq_ok further
    obtain ⟨rfl, rfl⟩ := pure_eq_ok last
    obtain ⟨built, rfl⟩ := finish_eq_ok finished
    obtain ⟨items, after, aligns, listed, gap⟩ := readItems_eq_ok sound itemsRead
    exact ⟨_, _, spaced, .array listed (gap.trans (endOfList_eq_ok ended)), state,
      .array aligns, built⟩
  · rename_i same
    obtain rfl := Option.some.inj same
    subst found
    obtain ⟨state, between, membersRead, further⟩ := bind_eq_ok (advance_bind '{' tail ▸ further)
    obtain ⟨_, left, finished, further⟩ := bind_eq_ok further
    obtain ⟨_, after, ended, last⟩ := bind_eq_ok further
    obtain ⟨rfl, rfl⟩ := pure_eq_ok last
    obtain ⟨built, rfl⟩ := finish_eq_ok finished
    obtain ⟨members, after, gathers, listed, gap⟩ := readMembers_eq_ok sound membersRead
    exact ⟨_, _, spaced, .object listed (gap.trans (endOfObject_eq_ok ended)), state,
      .object gathers, built⟩
  · subst found
    exact absurd further (hopeless_unexpected _ _ _)

end Record

/-! ### Whole texts -/

theorem endOfText_eq_ok {text rest : List Char} {value : Unit}
    (read : endOfText text = .ok (value, rest)) : Spaced text [] := by
  obtain ⟨spaced, -⟩ | ⟨c, tail, reader, -, found, further⟩ := token_cases read
  · exact spaced
  · split at found
    · rename_i absurdity
      cases absurdity
    · subst found
      exact absurd further fail_ne_ok

/-- A whole text that is read is a value, and nothing but space after it. -/
theorem read_of_all {reader : Reader α} {text : List Char} {value : α}
    (read : reader.all text = .ok value) :
    ∃ rest, reader text = .ok (value, rest) ∧ Spaced rest [] := by
  unfold Reader.all at read
  split at read
  · rename_i result rest ran
    obtain rfl := Except.ok.inj read
    obtain ⟨found, between, valueRead, further⟩ := bind_eq_ok ran
    obtain ⟨_, left, ended, finished⟩ := bind_eq_ok further
    obtain ⟨rfl, rfl⟩ := pure_eq_ok finished
    exact ⟨between, valueRead, endOfText_eq_ok ended⟩
  · cases read

/-- A whole text that is read is one of the grammar, and means what it is read as. -/
theorem all_eq_ok {reader : Reader α} {means : α → Tree → Prop} (sound : Sound reader means)
    {text : List Char} {value : α} (read : reader.all text = .ok value) :
    ∃ tree, IsText tree text ∧ means value tree := by
  obtain ⟨rest, valueRead, gap⟩ := read_of_all read
  obtain ⟨start, tree, spaced, written, meaning⟩ := sound text value rest valueRead
  exact ⟨tree, ⟨start, rest, spaced, written, gap⟩, meaning⟩

end LanguageServer.Json
