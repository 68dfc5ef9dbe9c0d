import LanguageServer.Proofs.Json.Contents
import LanguageServer.Symbol.Answer

/-! What the compiler printed if its answer was taken: a text of the JSON grammar, in which `success`
says whether a symbol was found. -/

namespace LanguageServer.Symbol

open Json Json.Reader

/-! ### Kinds -/

theorem Kind.ofName_eq_ok {name : String} {kind : Kind} {text rest : List Char}
    (read : Kind.ofName name text = .ok (kind, rest)) :
    (name, kind) ∈ Kind.spellings ∧ text = rest := by
  unfold Kind.ofName at read
  cases found : Kind.spellings.find? (·.1 == name) with
  | none =>
    rw [found] at read
    exact absurd read fail_ne_ok
  | some spelling =>
    obtain ⟨other, known⟩ := spelling
    obtain rfl : other = name := by simpa using List.find?_some found
    rw [found] at read
    obtain ⟨rfl, rfl⟩ := pure_eq_ok read
    exact ⟨List.mem_of_find?_eq_some found, rfl⟩

theorem Kind.name_eq_ok {kind : Kind} {text rest : List Char}
    (read : (do Kind.ofName (← stringTail) : Reader Kind) text = .ok (kind, rest)) :
    ∃ name word, (name, kind) ∈ Kind.spellings ∧ text = word ++ '"' :: rest ∧
      SpellsChars name.toList word := by
  obtain ⟨name, between, nameRead, found⟩ := bind_eq_ok read
  obtain ⟨word, same, spelled⟩ := stringTail_eq_ok nameRead
  obtain ⟨known, rfl⟩ := Kind.ofName_eq_ok found
  exact ⟨name, word, known, same, spelled⟩

theorem Kind.readKey_eq_ok {kind : Kind} {text rest : List Char}
    (read : Kind.readKey text = .ok (kind, rest)) :
    ∃ name word, (name, kind) ∈ Kind.spellings ∧ Spaced text ('"' :: word ++ '"' :: rest) ∧
      SpellsChars name.toList word := by
  obtain ⟨c, tail, reader, spaced, found, further⟩ := token_some rfl read
  split at found
  · rename_i absurdity
    cases absurdity
  · rename_i same
    obtain rfl := Option.some.inj same
    subst found
    obtain ⟨name, word, known, rfl, spelled⟩ := Kind.name_eq_ok (advance_bind '"' tail ▸ further)
    exact ⟨name, word, known, spaced, spelled⟩
  · subst found
    exact absurd further (hopeless_unexpected _ _ _)

theorem null_eq_ok {text rest : List Char} {value : Unit} (read : null text = .ok (value, rest)) :
    Spaced text ('n' :: 'u' :: 'l' :: 'l' :: rest) := by
  obtain ⟨c, tail, reader, spaced, found, further⟩ := token_some rfl read
  split at found
  · rename_i absurdity
    cases absurdity
  · rename_i same
    obtain rfl := Option.some.inj same
    subst found
    obtain rfl := restOfWord_eq_ok (advance_bind 'n' tail ▸ further)
    exact spaced
  · subst found
    exact absurd further (hopeless_unexpected _ _ _)

/-- A tree names a kind: it is a name of it, or has one as its only key, with `null` as the value. -/
inductive Kind.Named (kind : Kind) : Tree → Prop
  | string {name : String} {word : List Char} (known : (name, kind) ∈ Kind.spellings)
      (spelled : SpellsChars name.toList word) : Named kind (.string word)
  | key {name : String} {word : List Char} (known : (name, kind) ∈ Kind.spellings)
      (spelled : SpellsChars name.toList word) : Named kind (.object [(word, .null)])

theorem Kind.sound_read : Sound Kind.read Kind.Named := by
  intro text kind rest read
  obtain ⟨c, tail, reader, spaced, found, further⟩ := token_some rfl read
  split at found
  · rename_i absurdity
    cases absurdity
  · rename_i same
    obtain rfl := Option.some.inj same
    subst found
    obtain ⟨name, word, known, rfl, spelled⟩ := Kind.name_eq_ok (advance_bind '"' tail ▸ further)
    exact ⟨_, _, spaced, .string spelled.isCharacters, .string known spelled⟩
  · rename_i same
    obtain rfl := Option.some.inj same
    subst found
    obtain ⟨kind, colonText, keyRead, further⟩ := bind_eq_ok (advance_bind '{' tail ▸ further)
    obtain ⟨_, nullText, colonRead, further⟩ := bind_eq_ok further
    obtain ⟨_, after, nullRead, further⟩ := bind_eq_ok further
    obtain ⟨name, word, known, gap, spelled⟩ := Kind.readKey_eq_ok keyRead
    have written : WrittenMembers true [(word, .null)] tail after :=
      .cons gap spelled.isCharacters ⟨nullText, colon_eq_ok colonRead, null_eq_ok nullRead⟩
        .null .nil
    obtain ⟨d, final, reader, ending, found, last⟩ := token_some rfl further
    split at found
    · rename_i absurdity
      cases absurdity
    · rename_i same
      obtain rfl := Option.some.inj same
      subst found
      obtain ⟨rfl, rfl⟩ := pure_eq_ok (advance_bind '\x7d' final ▸ last)
      exact ⟨_, _, spaced, .object written ending, .key known spelled⟩
    · subst found
      exact absurd last fail_ne_ok
  · subst found
    exact absurd further fail_ne_ok

/-- What is looked at in a kind: its name, which can also be a key. -/
def Kind.schema : Schema := .record []

theorem Kind.Named.legible {kind : Kind} {tree : Tree} (named : kind.Named tree) :
    Legible Kind.schema tree := by
  cases named with
  | string _ spelled => exact .string spelled
  | @key name word _ spelled =>
    refine .object ?_ fun _ _ _ absurdity => absurd absurdity List.not_mem_nil
    rintro member (_ | ⟨_, absurdity⟩)
    · exact ⟨name.toList, spelled⟩
    · cases absurdity

/-! ### Symbols -/

/-- What is looked at in a parameter. -/
def Parameter.schemas : List (String × Schema) :=
  [("name", .plain), ("documentation", .plain)]

def Location.schemas : List (String × Schema) :=
  [("file", .plain), ("line", .plain), ("column", .plain)]

def schemas : List (String × Schema) :=
  [("kind", Kind.schema), ("name", .plain), ("type", .plain), ("signature", .plain),
   ("documentation", .plain), ("parameters", .list (.record Parameter.schemas)),
   ("returnDoc", .plain), ("location", .record Location.schemas)]

theorem Parameter.sound_read : Sound Parameter.record.read fun _ tree =>
    Legible (.record Parameter.schemas) tree := by
  refine (Record.sound_within Parameter.schemas ?_ (by decide)).mono
    fun _ _ describes => describes.legible rfl
  exact .cons ⟨rfl, legible_map (legible_string _)⟩
    (.cons ⟨rfl, legible_map (legible_optional (legible_string _))⟩ .nil)

theorem Location.sound_read : Sound Location.record.read fun _ tree =>
    Legible (.record Location.schemas) tree := by
  refine (Record.sound_within Location.schemas ?_ (by decide)).mono
    fun _ _ describes => describes.legible rfl
  exact .cons ⟨rfl, legible_map (legible_optional (legible_string _))⟩
    (.cons ⟨rfl, legible_map (legible_word _)⟩ (.cons ⟨rfl, legible_map (legible_word _)⟩ .nil))

theorem sound_read : Sound record.read (record.Describes (Record.Within schemas)) := by
  refine Record.sound_within schemas ?_ (by decide)
  exact .cons ⟨rfl, legible_map (Kind.sound_read.mono fun _ _ named => named.legible)⟩ <|
    .cons ⟨rfl, legible_map (legible_string _)⟩ <|
    .cons ⟨rfl, legible_map (legible_string _)⟩ <|
    .cons ⟨rfl, legible_map (legible_string _)⟩ <|
    .cons ⟨rfl, legible_map (legible_optional (legible_string _))⟩ <|
    .cons ⟨rfl, legible_map (legible_optional (legible_list Parameter.sound_read))⟩ <|
    .cons ⟨rfl, legible_map (legible_optional (legible_string _))⟩ <|
    .cons ⟨rfl, legible_map (legible_optional Location.sound_read)⟩ .nil

/-! ### Failures -/

def Failure.schemas : List (String × Schema) :=
  [("code", .plain), ("message", .plain)]

/-- What the value of a key does to the fields of a failure. -/
inductive Failure.Means : String → (FailureFields → FailureFields) → Tree → Prop
  | code {value : String} {tree : Tree} (spells : tree.Spells value) :
      Means "code" (fun state => { state with code := some value }) tree
  | message {value : String} {tree : Tree} (spells : tree.Spells value) :
      Means "message" (fun state => { state with message := some value }) tree

theorem Failure.sound_read : Sound Failure.record.read (Failure.record.Describes Failure.Means) := by
  refine Record.sound_read fun field member => ?_
  simp only [Failure.record, List.mem_cons, List.not_mem_nil, or_false] at member
  rcases member with rfl | rfl
  · refine (sound_string.map _).mono ?_
    rintro _ tree ⟨value, rfl, spells⟩
    exact .code spells
  · refine (sound_string.map _).mono ?_
    rintro _ tree ⟨value, rfl, spells⟩
    exact .message spells

theorem Failure.legible {failure : Failure} {tree : Tree}
    (describes : Failure.record.Describes Failure.Means failure tree) :
    Legible (.record Failure.schemas) tree := by
  obtain ⟨state, fills, -⟩ := describes
  refine fills.legible rfl fun means schema member => ?_
  cases means with
  | code spells => exact spells.legible schema
  | message spells => exact spells.legible schema

theorem Failure.tracks_code : Failure.record.Tracks Failure.Means "code" FailureFields.code
    fun value tree => tree.Spells value where
  initially := rfl
  known := by decide
  filled := by simp [Failure.record]
  sets means same state := by
    cases means with
    | code spells => exact ⟨_, rfl, spells⟩
    | message _ => exact absurd same (by decide)
  keeps means different state := by
    cases means with
    | code _ => exact absurd rfl different
    | message _ => rfl

theorem Failure.tracks_message : Failure.record.Tracks Failure.Means "message" FailureFields.message
    fun value tree => tree.Spells value where
  initially := rfl
  known := by decide
  filled := by simp [Failure.record]
  sets means same state := by
    cases means with
    | code _ => exact absurd same (by decide)
    | message spells => exact ⟨_, rfl, spells⟩
  keeps means different state := by
    cases means with
    | code _ => rfl
    | message _ => exact absurd rfl different

theorem Failure.build_eq_ok {state : FailureFields} {failure : Failure}
    (built : Failure.record.build state = .ok failure) :
    state.code = some failure.code ∧ state.message = some failure.message := by
  obtain ⟨code, message⟩ := state
  cases code with
  | none => cases built
  | some code =>
    cases message with
    | none => cases built
    | some message =>
      cases built
      exact ⟨rfl, rfl⟩

/-- A tree tells a failure: it gives its code and its message. -/
def Failure.Told (failure : Failure) (tree : Tree) : Prop :=
  (∃ code, tree.Gives ["code", "message"] "code" (some code) ∧ code.Spells failure.code) ∧
    ∃ message, tree.Gives ["code", "message"] "message" (some message) ∧
      message.Spells failure.message

theorem Failure.told {failure : Failure} {tree : Tree}
    (describes : Failure.record.Describes Failure.Means failure tree) : failure.Told tree := by
  obtain ⟨state, fills, built⟩ := describes
  obtain ⟨hasCode, hasMessage⟩ := Failure.build_eq_ok built
  obtain ⟨code, givesCode, isCode⟩ := fills.gives Failure.tracks_code (by decide)
  obtain ⟨message, givesMessage, isMessage⟩ := fills.gives Failure.tracks_message (by decide)
  rw [hasCode] at isCode
  rw [hasMessage] at isMessage
  cases isCode with
  | some spellsCode =>
    cases isMessage with
    | some spellsMessage => exact ⟨⟨_, givesCode, spellsCode⟩, _, givesMessage, spellsMessage⟩

/-! ### Envelopes -/

def Envelope.schemas : List (String × Schema) :=
  [("success", .plain), ("result", .record Symbol.schemas), ("error", .record Failure.schemas)]

/-- What the value of a key does to the fields of an envelope. -/
inductive Envelope.Means : String → (EnvelopeFields → EnvelopeFields) → Tree → Prop
  | success {value : Bool} :
      Means "success" (fun state => { state with success := some value }) (.bool value)
  | result {value : Option Symbol} {tree : Tree}
      (given : Perhaps (Symbol.record.Describes (Record.Within Symbol.schemas)) value tree) :
      Means "result" (fun state => { state with result := some value }) tree
  | error {value : Option Failure} {tree : Tree}
      (given : Perhaps (Failure.record.Describes Failure.Means) value tree) :
      Means "error" (fun state => { state with error := some value }) tree

theorem Envelope.sound_read : Sound Envelope.record.read (Envelope.record.Describes Envelope.Means) := by
  refine Record.sound_read fun field member => ?_
  simp only [Envelope.record, List.mem_cons, List.not_mem_nil, or_false] at member
  rcases member with rfl | rfl | rfl
  · refine (sound_boolean.map _).mono ?_
    rintro _ _ ⟨value, rfl, rfl⟩
    exact .success
  · refine ((sound_optional Symbol.sound_read).map _).mono ?_
    rintro _ tree ⟨value, rfl, given⟩
    exact .result given
  · refine ((sound_optional Failure.sound_read).map _).mono ?_
    rintro _ tree ⟨value, rfl, given⟩
    exact .error given

theorem Envelope.legible {state : EnvelopeFields} {tree : Tree}
    (fills : Envelope.record.Fills Envelope.Means state tree) :
    Legible (.record Envelope.schemas) tree := by
  refine fills.legible rfl fun means schema member => ?_
  cases means with
  | success => exact .bool
  | result given =>
    obtain rfl : schema = .record Symbol.schemas := by simpa [Envelope.schemas] using member
    exact given.legible fun _ _ describes => describes.legible rfl
  | error given =>
    obtain rfl : schema = .record Failure.schemas := by simpa [Envelope.schemas] using member
    exact given.legible fun _ _ describes => Failure.legible describes

theorem Envelope.tracks_success : Envelope.record.Tracks Envelope.Means "success"
    EnvelopeFields.success fun value tree => tree = .bool value where
  initially := rfl
  known := by decide
  filled := by simp [Envelope.record]
  sets means same state := by
    cases means with
    | success => exact ⟨_, rfl, rfl⟩
    | result _ => exact absurd same (by decide)
    | error _ => exact absurd same (by decide)
  keeps means different state := by
    cases means with
    | success => exact absurd rfl different
    | result _ => rfl
    | error _ => rfl

theorem Envelope.tracks_result : Envelope.record.Tracks Envelope.Means "result"
    EnvelopeFields.result (Perhaps (Symbol.record.Describes (Record.Within Symbol.schemas))) where
  initially := rfl
  known := by decide
  filled := by simp [Envelope.record]
  sets means same state := by
    cases means with
    | success => exact absurd same (by decide)
    | result given => exact ⟨_, rfl, given⟩
    | error _ => exact absurd same (by decide)
  keeps means different state := by
    cases means with
    | success => rfl
    | result _ => exact absurd rfl different
    | error _ => rfl

theorem Envelope.tracks_error : Envelope.record.Tracks Envelope.Means "error"
    EnvelopeFields.error (Perhaps (Failure.record.Describes Failure.Means)) where
  initially := rfl
  known := by decide
  filled := by simp [Envelope.record]
  sets means same state := by
    cases means with
    | success => exact absurd same (by decide)
    | result _ => exact absurd same (by decide)
    | error given => exact ⟨_, rfl, given⟩
  keeps means different state := by
    cases means with
    | success => rfl
    | result _ => rfl
    | error _ => exact absurd rfl different

theorem Envelope.build_eq_ok {state : EnvelopeFields} {envelope : Envelope}
    (built : Envelope.record.build state = .ok envelope) :
    state.success = some envelope.success ∧ state.result.join = envelope.result ∧
      state.error.join = envelope.error := by
  obtain ⟨success, result, error⟩ := state
  cases success with
  | none => cases built
  | some success =>
    cases built
    exact ⟨rfl, rfl, rfl⟩

/-- The keys of an envelope, in the order of a list of their values. -/
def Envelope.keys : List String := ["success", "result", "error"]

/-- The answer that a tree announces. It is by `success` a symbol or a failure; the symbol is not there
if `result` is missing or `null`, nor is the failure if `error` is. -/
inductive Announces (tree : Tree) : Except Failure Symbol → Prop
  | found {symbol : Symbol} {value : Tree}
      (success : tree.Gives Envelope.keys "success" (some (.bool true)))
      (result : tree.Gives Envelope.keys "result" (some value)) (present : value ≠ .null) :
      Announces tree (.ok symbol)
  | resultMissing {given : Option Tree}
      (success : tree.Gives Envelope.keys "success" (some (.bool true)))
      (result : tree.Gives Envelope.keys "result" given) (absent : given.getD .null = .null) :
      Announces tree (.error ⟨Failure.parseCode, "successful symbol query without a result"⟩)
  | failed {failure : Failure} {value : Tree}
      (success : tree.Gives Envelope.keys "success" (some (.bool false)))
      (error : tree.Gives Envelope.keys "error" (some value)) (told : failure.Told value) :
      Announces tree (.error failure)
  | errorMissing {given : Option Tree}
      (success : tree.Gives Envelope.keys "success" (some (.bool false)))
      (error : tree.Gives Envelope.keys "error" given) (absent : given.getD .null = .null) :
      Announces tree (.error ⟨Failure.parseCode, "failed symbol query without an error"⟩)

theorem Envelope.announces {envelope : Envelope} {state : EnvelopeFields} {tree : Tree}
    (fills : Envelope.record.Fills Envelope.Means state tree)
    (built : Envelope.record.build state = .ok envelope) : Announces tree envelope.answer := by
  obtain ⟨hasSuccess, hasResult, hasError⟩ := Envelope.build_eq_ok built
  obtain ⟨_, givesSuccess, isSuccess⟩ := fills.gives Envelope.tracks_success (by decide)
  obtain ⟨result, givesResult, isResult⟩ := fills.gives Envelope.tracks_result (by decide)
  obtain ⟨error, givesError, isError⟩ := fills.gives Envelope.tracks_error (by decide)
  rw [hasSuccess] at isSuccess
  obtain ⟨success, symbol, failure⟩ := envelope
  cases isSuccess with
  | some same =>
    subst same
    cases success with
    | true =>
      cases symbol with
      | none => exact .resultMissing givesSuccess givesResult (Perhaps.absent isResult hasResult)
      | some symbol =>
        obtain ⟨value, rfl, describes⟩ := Perhaps.present isResult hasResult
        exact .found givesSuccess givesResult describes.ne_null
    | false =>
      cases failure with
      | none => exact .errorMissing givesSuccess givesError (Perhaps.absent isError hasError)
      | some failure =>
        obtain ⟨value, rfl, describes⟩ := Perhaps.present isError hasError
        exact .failed givesSuccess givesError (Failure.told describes)

/-- Only JSON is taken for an answer. What the compiler printed, space around it aside, is a text of
the grammar that announces the answer, and its strings are legible except where they are passed over.
All else is a failure to read it. -/
theorem accepted_output_is_json (output : List Char) :
    (∃ fault, Envelope.record.read.all (Text.trim output) = .error fault ∧ ofOutput output =
      .error ⟨Failure.parseCode, "invalid symbol query output: " ++ fault.message⟩) ∨
    ∃ tree, IsText tree (Text.trim output) ∧ Legible (.record Envelope.schemas) tree ∧
      Announces tree (ofOutput output) := by
  unfold ofOutput
  cases read : Envelope.record.read.all (Text.trim output) with
  | error fault => exact .inl ⟨fault, rfl, rfl⟩
  | ok envelope =>
    obtain ⟨tree, isText, state, fills, built⟩ := all_eq_ok Envelope.sound_read read
    exact .inr ⟨tree, isText, Envelope.legible fills, Envelope.announces fills built⟩

/-- A string that is passed over may hold half of a character. -/
example : ofOutput "\x7b\"x\": \"\\ud800\", \"success\": false\x7d".toList =
    .error ⟨Failure.parseCode, "failed symbol query without an error"⟩ := by
  decide +kernel

end LanguageServer.Symbol
