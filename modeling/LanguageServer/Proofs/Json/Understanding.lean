import Mathlib.Data.List.Nodup
import LanguageServer.Proofs.Json.Completeness
import LanguageServer.Proofs.Json.Contents

/-! What readers make of a tree, in whichever way it is written. What a tree means for a reader is what
the reader gives for every text of it. -/

namespace LanguageServer.Json

open Reader

/-- A reader takes a tree for a value, in whichever way it is written, with any space before it and
whatever follows. -/
def Understands (reader : Reader α) (tree : Tree) (value : α) : Prop :=
  ∀ text start rest, Spaced text start → Written tree start rest → Ends rest →
    reader text = .ok (value, rest)

theorem Understands.map {reader : Reader α} {tree : Tree} {value : α}
    (understands : Understands reader tree value) (change : α → β) :
    Understands (do let value ← reader; return change value) tree (change value) := by
  intro text start rest spaced written ends
  rw [bind_ok (understands text start rest spaced written ends)]
  rfl

/-! ### Words, strings and numbers -/

theorem stringTail_written {value : String} {word : List Char}
    (spelled : SpellsChars value.toList word) (rest : List Char) :
    stringTail (word ++ '"' :: rest) = .ok (value, rest) := by
  rw [stringTail, restOfString_chars spelled]
  simp

theorem understands_string {tree : Tree} {value : String} (spells : tree.Spells value) :
    Understands Reader.string tree value := by
  obtain ⟨word, rfl, spelled⟩ := spells
  intro text start rest spaced written ends
  obtain rfl := written.string_eq
  exact (token_head spaced rfl rfl).trans (stringTail_written spelled rest)

theorem understands_boolean (value : Bool) : Understands boolean (.bool value) value := by
  rintro text start rest ⟨gap, spacing, rfl⟩ written ends
  cases written with
  | yes => exact reads_boolean .yes gap rest spacing ends
  | no => exact reads_boolean .no gap rest spacing ends

theorem understands_word {tree : Tree} {value : Nat} (counts : tree.Counts value) :
    Understands word tree value := by
  obtain ⟨digits, rfl, isWhole, rfl, small⟩ := counts
  rintro text start rest ⟨gap, spacing, rfl⟩ written ends
  obtain rfl := written.number_eq
  obtain ⟨c, more, rfl, areDigits, zero⟩ := isWhole.first
  exact word_digits areDigits zero small spacing ends

theorem understands_absent (reader : Reader α) : Understands (Reader.optional reader) .null none := by
  rintro text start rest ⟨gap, spacing, rfl⟩ written ends
  cases written
  exact reads_optional_null .null gap rest spacing ends

theorem understands_present {reader : Reader α} {tree : Tree} {value : α}
    (understands : Understands reader tree value) (other : tree ≠ .null) :
    Understands (Reader.optional reader) tree (some value) := by
  intro text start rest spaced written ends
  obtain ⟨c, tail, rfl, token, -, -, null⟩ := written.first
  have read := understands _ _ rest (.refl _) written ends
  refine (token_head spaced token ?_).trans (map_ok read)
  split
  · rename_i same
    exact absurd (null (Option.some.inj same)) other
  · rfl

/-! ### Lists -/

theorem nextItem_written {first : Bool} {item : Tree} {text start rest : List Char}
    (separated : Separated first text start) (written : Written item start rest) :
    nextItem first text = .ok (true, start) := by
  obtain ⟨c, tail, rfl, token, other, -⟩ := written.first
  cases first with
  | true =>
    obtain ⟨gap, spacing, rfl⟩ := separated
    exact nextItem_first spacing token other tail
  | false =>
    obtain ⟨after, ⟨before, earlier, rfl⟩, gap, spacing, rfl⟩ := separated
    exact nextItem_comma earlier spacing token other tail

theorem loops_items {item : Reader α} {values : List α} {items : List Tree}
    (each : List.Forall₂ (fun value tree => Understands item tree value) values items)
    {found : List α} {text after rest : List Char}
    (listed : WrittenItems found.isEmpty items text after) (gap : Spaced after (']' :: rest)) :
    Loops (itemStep item) found text (values.reverse ++ found) (']' :: rest) := by
  induction each generalizing found text with
  | nil =>
    cases listed
    obtain ⟨space, spacing, rfl⟩ := gap
    exact .stop (itemStep_end item found spacing rest)
  | @cons value tree values items understands each ih =>
    cases listed with
    | @cons _ _ _ _ start between _ separated written further =>
      have read := understands start start between (.refl _) written (further.ends gap)
      have step : itemStep item found text = .ok (some (value :: found), between) := by
        rw [itemStep, bind_ok (nextItem_written separated written)]
        change (item >>= fun value => pure (some (value :: found))) start = _
        rw [bind_ok read]
        rfl
      have shorter := Nat.lt_of_lt_of_le written.length_lt separated.length_le
      have later : Loops (itemStep item) (value :: found) between
          (values.reverse ++ value :: found) (']' :: rest) := ih further
      rw [List.reverse_cons, List.append_assoc]
      exact .next step shorter later

theorem endOfList_spaced {text rest : List Char} (gap : Spaced text (']' :: rest)) :
    endOfList text = .ok ((), rest) :=
  token_head gap rfl rfl

theorem understands_list {item : Reader α} {values : List α} {items : List Tree}
    (each : List.Forall₂ (fun value tree => Understands item tree value) values items) :
    Understands (list item) (.array items) values := by
  intro text start rest spaced written ends
  cases written with
  | @array _ inner after _ listed gap =>
    have loops : Loops (itemStep item) [] inner (values.reverse ++ []) (']' :: rest) :=
      loops_items each listed gap
    have read : Reader.items item inner = .ok (values, rest) := by
      rw [items_eq, bind_ok loops.iterate, bind_ok (endOfList_bracket rest), List.append_nil,
        List.reverse_reverse]
      rfl
    exact (token_head spaced rfl rfl).trans read

/-! ### Records -/

theorem nextKey_written {first : Bool} {text rest : List Char}
    (separated : Separated first text ('"' :: rest)) : nextKey first text = .ok (true, rest) := by
  cases first with
  | true =>
    obtain ⟨gap, spacing, rfl⟩ := separated
    exact leadsKey_first gap rest spacing
  | false =>
    obtain ⟨after, ⟨before, earlier, rfl⟩, gap, spacing, rfl⟩ := separated
    have read := leadsKey_comma earlier gap rest spacing
    simpa using read

namespace Record

variable {record : Record σ α} {means : String → (σ → σ) → Tree → Prop}

/-- Items fill the fields of a record in their order, up to the closing bracket. -/
theorem readItems_written {fields : List (Field σ)}
    (understands : ∀ field ∈ fields, ∀ update tree, means field.key update tree →
      Understands field.read tree update) {state result : σ} {items : List Tree}
    (aligns : Aligns means fields state items result) {first : Bool} {text after rest : List Char}
    (listed : WrittenItems first items text after) (gap : Spaced after (']' :: rest)) (count : Nat) :
    ∃ between, record.readItems fields count first state text = .ok (result, between) ∧
      Spaced between (']' :: rest) := by
  induction aligns generalizing first text after count with
  | nil =>
    cases listed
    exact ⟨_, rfl, gap⟩
  | @item field fields state result update value items meaning further ih =>
    cases listed with
    | @cons _ _ _ _ start left _ separated written listed =>
      have read := understands field List.mem_cons_self update value meaning start start left
        (.refl _) written (listed.ends gap)
      rw [readItems, bind_ok (nextItem_written separated written), if_pos rfl, bind_ok read]
      exact ih (fun field member => understands field (List.mem_cons_of_mem _ member)) listed gap _
  | @absent field fields state result omissible further ih =>
    cases listed
    obtain ⟨space, spacing, rfl⟩ := gap
    rw [readItems, bind_ok (nextItem_end first spacing), if_neg Bool.false_ne_true,
      if_pos omissible]
    exact ih (fun field member => understands field (List.mem_cons_of_mem _ member)) .nil (.refl _) _

theorem memberStep_written {first : Bool} {text word afterKey rest : List Char} {key : String}
    {state later : σ} (separated : Separated first text ('"' :: word ++ '"' :: afterKey))
    (spelled : SpellsChars key.toList word)
    (read : record.readMember key state afterKey = .ok (later, rest)) :
    record.memberStep (state, first) text = .ok (some (later, false), rest) := by
  rw [memberStep, bind_ok (nextKey_written separated)]
  change (stringTail >>= fun key => record.readMember key state >>= fun state =>
    pure (some (state, false))) (word ++ '"' :: afterKey) = _
  rw [bind_ok (stringTail_written spelled afterKey), bind_ok read]
  rfl

theorem find?_key {fields : List (Field σ)} (distinct : (fields.map (·.key)).Nodup) {field : Field σ}
    (member : field ∈ fields) : fields.find? (·.key == field.key) = some field := by
  cases found : fields.find? (·.key == field.key) with
  | none => exact absurd (beq_self_eq_true field.key) (List.find?_eq_none.mp found field member)
  | some other =>
    have same : other.key = field.key := by simpa using List.find?_some found
    rw [List.inj_on_of_nodup_map distinct (List.mem_of_find?_eq_some found) member same]

/-- Members fill the fields of a record, up to the closing brace. -/
theorem loops_members
    (understands : ∀ field ∈ record.fields, ∀ update tree, means field.key update tree →
      Understands field.read tree update) (distinct : (record.fields.map (·.key)).Nodup)
    {state result : σ} {members : List (List Char × Tree)}
    (gathers : record.Gathers means state members result) {first : Bool}
    {text after rest : List Char} (listed : WrittenMembers first members text after)
    (gap : Spaced after ('\x7d' :: rest)) :
    ∃ last, Loops record.memberStep (state, first) text (result, last) ('\x7d' :: rest) := by
  induction gathers generalizing first text with
  | nil =>
    cases listed
    obtain ⟨space, spacing, rfl⟩ := gap
    exact ⟨first, .stop (memberStep_end record _ spacing rest)⟩
  | @skipped state result key word value members spelled unknown further ih =>
    cases listed with
    | @cons _ _ _ _ _ afterKey _ left _ separated chars beforeValue written listed =>
      obtain ⟨last, later⟩ := ih listed
      have shorter := (WrittenMembers.cons separated chars beforeValue written .nil).length_add_le
      obtain ⟨more, toColon, toValue⟩ := beforeValue
      have absent : record.fields.find? (·.key == key) = none := by
        refine List.find?_eq_none.mpr fun field member same => ?_
        exact unknown (beq_iff_eq.mp same ▸ List.mem_map_of_mem member)
      have read : record.readMember key state afterKey = .ok (state, left) := by
        rw [readMember, absent]
        dsimp only
        rw [bind_ok (colon_written toColon),
          bind_ok (skip_written toValue written (listed.ends gap))]
        rfl
      exact ⟨last, .next (memberStep_written separated spelled read) shorter later⟩
  | @filled state result field update word value members spelled known fresh meaning further ih =>
    cases listed with
    | @cons _ _ _ _ _ afterKey _ left _ separated chars beforeValue written listed =>
      obtain ⟨last, later⟩ := ih listed
      have shorter := (WrittenMembers.cons separated chars beforeValue written .nil).length_add_le
      obtain ⟨more, toColon, toValue⟩ := beforeValue
      have valueRead := understands field known update value meaning _ _ left toValue written
        (listed.ends gap)
      have read : record.readMember field.key state afterKey = .ok (update state, left) := by
        rw [readMember, find?_key distinct known]
        simp only [fresh, Bool.false_eq_true, if_false]
        rw [bind_ok (colon_written toColon), bind_ok valueRead]
        rfl
      exact ⟨last, .next (memberStep_written separated spelled read) shorter later⟩

/-- A record is read from every text of a tree that describes it, if its fields are read from every
text of what means their updates. -/
theorem understands_read
    (understands : ∀ field ∈ record.fields, ∀ update tree, means field.key update tree →
      Understands field.read tree update) (distinct : (record.fields.map (·.key)).Nodup) {made : α}
    {tree : Tree} (describes : record.Describes means made tree) :
    Understands record.read tree made := by
  obtain ⟨state, fills, built⟩ := describes
  have finished : ∀ text, record.finish state text = .ok (made, text) := by
    intro text
    rw [finish, built]
    rfl
  intro text start rest spaced written ends
  cases fills with
  | array aligns =>
    cases written with
    | @array _ inner after _ listed gap =>
      obtain ⟨between, itemsRead, left⟩ : ∃ between, record.readItems record.fields 0 true
          record.empty inner = .ok (state, between) ∧ Spaced between (']' :: rest) :=
        readItems_written understands aligns listed gap 0
      have read : (do
          let state ← record.readItems record.fields 0 true record.empty
          let made ← record.finish state
          endOfList
          return made : Reader α) inner = .ok (made, rest) := by
        rw [bind_ok itemsRead, bind_ok (finished between), bind_ok (endOfList_spaced left)]
        rfl
      exact (token_head spaced rfl rfl).trans read
  | object gathers =>
    cases written with
    | @object _ inner after _ listed gap =>
      obtain ⟨last, loops⟩ := loops_members understands distinct gathers listed gap
      have membersRead : record.readMembers inner = .ok (state, '\x7d' :: rest) := by
        rw [readMembers_eq, bind_ok loops.iterate]
        rfl
      have read : (do
          let state ← record.readMembers
          let made ← record.finish state
          endOfObject
          return made : Reader α) inner = .ok (made, rest) := by
        rw [bind_ok membersRead, bind_ok (finished _), bind_ok (endOfObject_brace rest)]
        rfl
      exact (token_head spaced rfl rfl).trans read

end Record

/-! ### Whole texts -/

theorem peekToken_end {text : List Char} (spaced : Spaced text []) :
    peekToken text = .ok (none, []) := by
  obtain ⟨gap, spacing, rfl⟩ := spaced
  have blank : (gap ++ []).dropWhile isSpace = [] := by
    simpa using isSpace_of_spacing spacing
  have skipped : space (gap ++ []) = .ok ((), []) := by
    rw [Reader.space, blank]
  rw [peekToken, bind_ok skipped]
  rfl

theorem all_of_understands {reader : Reader α} {tree : Tree} {value : α}
    (understands : Understands reader tree value) {text : List Char} (isText : IsText tree text) :
    reader.all text = .ok value := by
  obtain ⟨start, rest, spaced, written, gap⟩ := isText
  have read := understands text start rest spaced written (gap.ends ends_nil)
  have ended : endOfText rest = .ok ((), []) := by
    rw [endOfText, bind_ok (peekToken_end gap)]
    rfl
  have whole : (reader >>= fun value => endOfText >>= fun _ => pure value) text =
      .ok (value, []) := by
    rw [bind_ok read, bind_ok ended]
    rfl
  rw [Reader.all, StateT.run, whole]

end LanguageServer.Json
