import LanguageServer.Proofs.Json.Leniency
import LanguageServer.Proofs.Symbol.Acceptance

/-! Answers of later compilers. What the compiler prints can hold more than is asked for: members with
other keys, in any of the objects, do not change the answer. -/

namespace LanguageServer.Symbol

open Json Json.Reader

/-! ### Kinds -/

theorem Kind.name_written {kind : Kind} {name : String} {word : List Char}
    (known : (name, kind) ∈ Kind.spellings) (spelled : SpellsChars name.toList word)
    (rest : List Char) :
    (do Kind.ofName (← stringTail) : Reader Kind) (word ++ '"' :: rest) = .ok (kind, rest) := by
  have all : ∀ entry ∈ Kind.spellings, Kind.spellings.find? (·.1 == entry.1) = some entry := by
    decide
  rw [bind_ok (stringTail_written spelled rest), Kind.ofName, all _ known]
  rfl

theorem Kind.understands_read {kind : Kind} {tree : Tree} (named : kind.Named tree) :
    Understands Kind.read tree kind := by
  intro text start rest spaced written ends
  cases named with
  | string known spelled =>
    obtain rfl := written.string_eq
    exact (token_head spaced rfl rfl).trans (Kind.name_written known spelled rest)
  | @key name word known spelled =>
    cases written with
    | @object _ inner after _ listed gap =>
      cases listed with
      | @cons _ _ _ _ _ afterKey _ _ _ separated chars beforeValue written further =>
        cases further
        cases written
        obtain ⟨more, toColon, toValue⟩ := beforeValue
        have keyRead : Kind.readKey inner = .ok (kind, afterKey) :=
          (token_head separated rfl rfl).trans (Kind.name_written known spelled afterKey)
        have colonRead : colon afterKey = .ok ((), more) := colon_written toColon
        have nullRead : null more = .ok ((), after) :=
          (token_head toValue rfl rfl).trans (restOfWord_append ['u', 'l', 'l'] after)
        refine (token_head spaced rfl rfl).trans ?_
        refine (bind_ok (advance_cons _ _)).trans ?_
        rw [bind_ok keyRead, bind_ok colonRead, bind_ok nullRead]
        exact token_head gap rfl rfl

theorem Kind.lenient_read : Lenient Kind.read .plain :=
  Kind.sound_read.lenient_plain Kind.understands_read

/-! ### Records -/

theorem Parameter.lenient_read : Lenient Parameter.record.read (.record Parameter.schemas) := by
  refine Record.lenient_read Parameter.schemas ?_ (by decide)
  exact .cons ⟨rfl, lenient_string.map _⟩ <|
    .cons ⟨rfl, (lenient_optional lenient_string (refuses_null rfl)).map _⟩ .nil

theorem Location.lenient_read : Lenient Location.record.read (.record Location.schemas) := by
  refine Record.lenient_read Location.schemas ?_ (by decide)
  exact .cons ⟨rfl, (lenient_optional lenient_string (refuses_null rfl)).map _⟩ <|
    .cons ⟨rfl, lenient_word.map _⟩ <| .cons ⟨rfl, lenient_word.map _⟩ .nil

/-- Where the members of a symbol may hold records. A kind is none, even where it is an object. -/
def outline : List (String × Schema) :=
  ("kind", .plain) :: schemas.tail

theorem lenient_read : Lenient record.read (.record outline) := by
  refine Record.lenient_read outline ?_ (by decide)
  exact .cons ⟨rfl, Kind.lenient_read.map _⟩ <|
    .cons ⟨rfl, lenient_string.map _⟩ <|
    .cons ⟨rfl, lenient_string.map _⟩ <|
    .cons ⟨rfl, lenient_string.map _⟩ <|
    .cons ⟨rfl, (lenient_optional lenient_string (refuses_null rfl)).map _⟩ <|
    .cons ⟨rfl, (lenient_optional (lenient_list Parameter.lenient_read) (refuses_null rfl)).map _⟩ <|
    .cons ⟨rfl, (lenient_optional lenient_string (refuses_null rfl)).map _⟩ <|
    .cons ⟨rfl, (lenient_optional Location.lenient_read (refuses_null rfl)).map _⟩ .nil

theorem Failure.lenient_read : Lenient Failure.record.read (.record Failure.schemas) := by
  refine Record.lenient_read Failure.schemas ?_ (by decide)
  exact .cons ⟨rfl, lenient_string.map _⟩ <| .cons ⟨rfl, lenient_string.map _⟩ .nil

/-- Where the members of an envelope may hold records. -/
def Envelope.outline : List (String × Schema) :=
  [("success", .plain), ("result", .record Symbol.outline), ("error", .record Failure.schemas)]

theorem Envelope.lenient_read : Lenient Envelope.record.read (.record Envelope.outline) := by
  refine Record.lenient_read Envelope.outline ?_ (by decide)
  exact .cons ⟨rfl, lenient_boolean.map _⟩ <|
    .cons ⟨rfl, (lenient_optional Symbol.lenient_read (refuses_null rfl)).map _⟩ <|
    .cons ⟨rfl, (lenient_optional Failure.lenient_read (refuses_null rfl)).map _⟩ .nil

/-- Members that nothing asks for do not matter. What the compiler printed, if it was taken for an
envelope, has one tree; and every text of what the tree becomes when its records gain members with keys
that are no fields', whatever their values, is the same envelope and gives the same answer. -/
theorem further_members_ignored {output : List Char} {envelope : Envelope}
    (accepted : Envelope.record.read.all (Text.trim output) = .ok envelope) :
    ∃ tree, (∀ other, IsText other (Text.trim output) ↔ other = tree) ∧
      ∀ wider, Relation.ReflTransGen (Gains (.record Envelope.outline)) tree wider →
        ∀ longer, IsText wider (Text.trim longer) →
          Envelope.record.read.all (Text.trim longer) = .ok envelope ∧
            ofOutput longer = ofOutput output := by
  obtain ⟨tree, isText, withstands⟩ := all_eq_ok Envelope.lenient_read accepted
  refine ⟨tree, fun other => ⟨fun again => again.unique isText, fun same => same ▸ isText⟩, ?_⟩
  intro wider gained longer isWider
  have read := all_of_understands (withstands wider gained) isWider
  refine ⟨read, ?_⟩
  rw [ofOutput, ofOutput, accepted, read]

/-- Characters that the printer does not escape are spelled as they are. -/
theorem spellsChars_plain {chars : List Char} (same : chars.flatMap writeChar = chars) :
    SpellsChars chars chars := by
  have spelled := spellsChars_write chars
  rwa [same] at spelled

/-- An answer that says no more than that the question failed. -/
def bareFailure : List Char :=
  '{' :: '"' :: "success".toList ++ '"' :: ':' :: ['f', 'a', 'l', 's', 'e', '\x7d']

theorem isText_bareFailure : IsText (.object [("success".toList, .bool false)]) bareFailure := by
  have key : SpellsChars "success".toList "success".toList := spellsChars_plain rfl
  exact ⟨_, [], .refl _, .object (.cons (.refl _) key.isCharacters ⟨_, .refl _, .refl _⟩ .no .nil)
    (.refl _), .refl _⟩

/-- The key and the value of a member that nothing asks for: a list of a number that is too large and
of half a character. -/
def detail : List Char × Tree :=
  ("later".toList, .array [.number ['1', 'e', '9', '9', '9'], .string ['\\', 'u', 'd', '8', '0', '0']])

/-- The answer with this member in front. -/
def detailedFailure : List Char :=
  '{' :: '"' :: "later".toList ++ '"' :: ':' :: '[' :: ['1', 'e', '9', '9', '9'] ++ ',' ::
    '"' :: ['\\', 'u', 'd', '8', '0', '0'] ++ '"' :: ']' :: ',' ::
    '"' :: "success".toList ++ '"' :: ':' :: ['f', 'a', 'l', 's', 'e', '\x7d']

theorem isCharacters_half : IsCharacters ['\\', 'u', 'd', '8', '0', '0'] := by
  have unit : IsUnit ['d', '8', '0', '0'] 0xD800 := isUnit_of_unit? rfl
  exact .unit unit .nil

theorem isText_detailedFailure :
    IsText (.object [detail, ("success".toList, .bool false)]) detailedFailure := by
  have later : SpellsChars "later".toList "later".toList := spellsChars_plain rfl
  have success : SpellsChars "success".toList "success".toList := spellsChars_plain rfl
  have large : IsUnsigned (['1'] ++ ([] ++ ('e' :: [] ++ '9' :: ['9', '9']))) :=
    .parts (.more rfl (by decide) (by simp [AreDigits])) .none
      (.mark (.inl rfl) (.inl rfl) rfl (by simp [AreDigits]))
  have value : ∀ rest, Written detail.2 ('[' :: ['1', 'e', '9', '9', '9'] ++ ',' ::
      '"' :: ['\\', 'u', 'd', '8', '0', '0'] ++ '"' :: ']' :: rest) rest := fun _ =>
    .array (.cons (.refl _) (.number (.positive large))
      (.cons ⟨_, .refl _, .refl _⟩ (.string isCharacters_half) .nil)) (.refl _)
  exact ⟨_, [], .refl _, .object
    (.cons (.refl _) later.isCharacters ⟨_, .refl _, .refl _⟩ (value _)
      (.cons ⟨_, .refl _, .refl _⟩ success.isCharacters ⟨_, .refl _, .refl _⟩ .no .nil))
    (.refl _), .refl _⟩

theorem further_members_ignored_detailed :
    Envelope.record.read.all (Text.trim bareFailure) = .ok ⟨false, none, none⟩ ∧
      ofOutput detailedFailure = ofOutput bareFailure := by
  have accepted : Envelope.record.read.all (Text.trim bareFailure) = .ok ⟨false, none, none⟩ := by
    decide +kernel
  have trimmed : Text.trim bareFailure = bareFailure := by decide +kernel
  have alsoTrimmed : Text.trim detailedFailure = detailedFailure := by decide +kernel
  obtain ⟨tree, only, same⟩ := further_members_ignored accepted
  obtain rfl := (only _).mp (trimmed.symm ▸ isText_bareFailure)
  have gains : Gains (.record Envelope.outline) (.object [("success".toList, .bool false)])
      (.object [detail, ("success".toList, .bool false)]) :=
    .here [] (spellsChars_plain rfl) (by decide)
  exact ⟨accepted, (same _ (.single gains) _ (alsoTrimmed.symm ▸ isText_detailedFailure)).2⟩

/-- The answer with a member whose key is half a character. -/
def oddFailure : List Char :=
  '{' :: '"' :: "success".toList ++ '"' :: ':' :: 'f' :: 'a' :: 'l' :: 's' :: 'e' :: ',' ::
    '"' :: ['\\', 'u', 'd', '8', '0', '0'] ++ '"' :: ':' :: ['1'] ++ ['\x7d']

/-- A key has to be a string, even where the member is not asked for: a text of the grammar is refused
for it. -/
theorem half_character_key_refused :
    IsText (.object [("success".toList, .bool false),
        (['\\', 'u', 'd', '8', '0', '0'], .number ['1'])]) oddFailure ∧
      ofOutput bareFailure =
        .error ⟨Failure.parseCode, "failed symbol query without an error"⟩ ∧
      ofOutput oddFailure =
        .error ⟨Failure.parseCode, "invalid symbol query output: unexpected end of hex escape"⟩ := by
  have success : SpellsChars "success".toList "success".toList := spellsChars_plain rfl
  have one : IsUnsigned (['1'] ++ ([] ++ [])) :=
    .parts (.more rfl (by decide) (by simp [AreDigits])) .none .none
  refine ⟨⟨_, [], .refl _, .object
    (.cons (.refl _) success.isCharacters ⟨_, .refl _, .refl _⟩ .no
      (.cons ⟨_, .refl _, .refl _⟩ isCharacters_half ⟨_, .refl _, .refl _⟩
        (.number (.positive one)) .nil))
    (.refl _), .refl _⟩, ?_, ?_⟩
  · decide +kernel
  · decide +kernel

end LanguageServer.Symbol
