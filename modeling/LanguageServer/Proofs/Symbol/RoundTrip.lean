import LanguageServer.Proofs.Json.Form
import LanguageServer.Proofs.Text.Trim
import LanguageServer.Symbol.Answer

/-! The compiler's answers as JSON texts. An answer can be written in many ways, and is read from
each of them. -/

namespace LanguageServer.Symbol

open Json

/-- The name of a kind with a capital. -/
def Kind.title : Kind → String
  | .function => "Function"
  | .variable => "Variable"
  | .struct => "Struct"
  | .type => "Type"

def Parameter.slots (parameter : Parameter) : List Slot :=
  [.always "name" (IsString parameter.name),
   .maybe "documentation" parameter.documentation IsString]

def Location.slots (location : Location) : List Slot :=
  [.maybe "file" location.file IsString,
   .always "line" (IsNumber location.line),
   .always "column" (IsNumber location.column)]

/-- The members of a symbol. Its kind has two spellings. -/
def slots (symbol : Symbol) : List Slot :=
  [.always "kind" fun json => IsString symbol.kind.name json ∨ IsString symbol.kind.title json,
   .always "name" (IsString symbol.name),
   .always "type" (IsString symbol.type),
   .always "signature" (IsString symbol.signature),
   .maybe "documentation" symbol.documentation IsString,
   .maybe "parameters" symbol.parameters fun parameters json => ∃ items, json = .array items ∧
     List.Forall₂ (fun item parameter => HasForm parameter.slots item) items parameters,
   .maybe "returnDoc" symbol.returns IsString,
   .maybe "location" symbol.location fun location => HasForm location.slots]

def Failure.slots (failure : Failure) : List Slot :=
  [.always "code" (IsString failure.code),
   .always "message" (IsString failure.message)]

def Location.Fits (location : Location) : Prop :=
  location.line < Nat.pow 2 32 ∧ location.column < Nat.pow 2 32

def Fits (symbol : Symbol) : Prop :=
  ∀ location, symbol.location = some location → location.Fits

/-- The members of an envelope. What it does not announce can be left out. -/
def Envelope.slots (success : Bool) (result : Option Symbol) (error : Option Failure) : List Slot :=
  [.always "success" (· = .bool success),
   (Slot.maybe "result" result fun symbol => HasForm symbol.slots).inCase (success = true),
   (Slot.maybe "error" error fun failure => HasForm failure.slots).inCase (success = false)]

/-- An object that gives an answer. It may hold a symbol beside a failure, and a failure beside a
symbol. -/
def IsEnvelope : Except Failure Symbol → Json → Prop
  | .ok symbol, json => ∃ error, HasForm (Envelope.slots true (some symbol) error) json
  | .error failure, json => ∃ result : Option Symbol, (∀ symbol, result = some symbol → symbol.Fits) ∧
    HasForm (Envelope.slots false result (some failure)) json

/-- The object that the compiler prints for an answer. -/
def envelope : Except Failure Symbol → Json
  | .ok symbol => .object [("success", .bool true), ("result", symbol.toJson)]
  | .error failure => .object [("success", .bool false), ("error", failure.toJson)]

/-! ### Parameters and locations -/

def Parameter.view (parameter : Parameter) (filled : List String) : ParameterFields where
  name := given filled "name" parameter.name
  documentation := given filled "documentation" parameter.documentation

theorem Parameter.portrays (parameter : Parameter) :
    Portrays Parameter.record parameter.slots parameter.view fun _ => parameter where
  empty := rfl
  fills := by
    intro slot membership json holds
    simp only [Parameter.slots, List.mem_cons, List.not_mem_nil, or_false] at membership
    rcases membership with rfl | rfl
    · refine ⟨_, _, rfl, fun filled absent => given_of_not_mem _ absent,
        fun text spelled => (reads_isString holds spelled).map _, fun filled => ?_⟩
      simp [Parameter.view, given_cons_of_ne, Slot.always]
    · refine ⟨_, _, rfl, fun filled absent => given_of_not_mem _ absent,
        fun text spelled => (reads_maybe_string holds spelled).map _, fun filled => ?_⟩
      simp [Parameter.view, given_cons_of_ne, Slot.maybe]
  build := by
    intro filled complete
    simp only [Parameter.slots, List.forall_mem_cons] at complete
    obtain ⟨name, documentation, -⟩ := complete
    have name : "name" ∈ filled := name trivial
    change _ → "documentation" ∈ filled at documentation
    simp only [Parameter.record, Parameter.view, given_of_mem _ name, join_given documentation,
      required]
    rfl

def Location.view (location : Location) (filled : List String) : LocationFields where
  file := given filled "file" location.file
  line := given filled "line" location.line
  column := given filled "column" location.column

theorem Location.portrays (location : Location) (fits : location.Fits) :
    Portrays Location.record location.slots location.view fun _ => location where
  empty := rfl
  fills := by
    intro slot membership json holds
    simp only [Location.slots, List.mem_cons, List.not_mem_nil, or_false] at membership
    rcases membership with rfl | rfl | rfl
    · refine ⟨_, _, rfl, fun filled absent => given_of_not_mem _ absent,
        fun text spelled => (reads_maybe_string holds spelled).map _, fun filled => ?_⟩
      simp [Location.view, given_cons_of_ne, Slot.maybe]
    · refine ⟨_, _, rfl, fun filled absent => given_of_not_mem _ absent,
        fun text spelled => (reads_isNumber fits.1 holds spelled).map _, fun filled => ?_⟩
      simp [Location.view, given_cons_of_ne, Slot.always]
    · refine ⟨_, _, rfl, fun filled absent => given_of_not_mem _ absent,
        fun text spelled => (reads_isNumber fits.2 holds spelled).map _, fun filled => ?_⟩
      simp [Location.view, given_cons_of_ne, Slot.always]
  build := by
    intro filled complete
    simp only [Location.slots, List.forall_mem_cons] at complete
    obtain ⟨file, line, column, -⟩ := complete
    have line : "line" ∈ filled := line trivial
    have column : "column" ∈ filled := column trivial
    change _ → "file" ∈ filled at file
    simp only [Location.record, Location.view, given_of_mem _ line, given_of_mem _ column,
      join_given file, required]
    rfl

/-! ### Symbols and failures -/

def view (symbol : Symbol) (filled : List String) : SymbolFields where
  kind := given filled "kind" symbol.kind
  name := given filled "name" symbol.name
  type := given filled "type" symbol.type
  signature := given filled "signature" symbol.signature
  documentation := given filled "documentation" symbol.documentation
  parameters := given filled "parameters" symbol.parameters
  returns := given filled "returnDoc" symbol.returns
  location := given filled "location" symbol.location

theorem Kind.ofName_spelled (kind : Kind) {name : String}
    (spelling : name = kind.name ∨ name = kind.title) : Kind.ofName name = pure kind := by
  rcases spelling with rfl | rfl
  · cases kind <;> rfl
  · cases kind <;> rfl

theorem Kind.reads (kind : Kind) {json : Json}
    (named : IsString kind.name json ∨ IsString kind.title json) {text : List Char}
    (spelled : Spells json text) : Reads Kind.read text kind := by
  intro gap rest spacing ends
  obtain ⟨name, rfl, spelling⟩ :
      ∃ name, json = .string name ∧ (name = kind.name ∨ name = kind.title) := by
    rcases named with same | same
    · exact ⟨_, same, .inl rfl⟩
    · exact ⟨_, same, .inr rfl⟩
  cases spelled with
  | string spelled =>
    obtain ⟨tail, rfl, read⟩ := stringTail_spelled spelled
    rw [Kind.read, List.cons_append, bind_ok (peekToken_token spacing rfl)]
    change (Reader.advance >>= fun _ => Reader.stringTail >>= fun name => Kind.ofName name) _ = _
    rw [bind_ok (advance_cons _ _), bind_ok (read rest), Kind.ofName_spelled kind spelling]
    rfl

theorem reads_parameters {parameters : List Parameter} {items : List Json}
    (forms : List.Forall₂ (fun item parameter => HasForm parameter.slots item) items parameters)
    {text : List Char} (spelled : Spells (.array items) text) :
    Reads (Reader.list Parameter.record.read) text parameters := by
  refine reads_list ?_ spelled
  refine forms.imp ?_
  intro item parameter form
  obtain ⟨-, -, reads⟩ := parameter.portrays.reads form
  exact reads

theorem portrays (symbol : Symbol) (fits : symbol.Fits) :
    Portrays record symbol.slots symbol.view fun _ => symbol where
  empty := rfl
  fills := by
    intro slot membership json holds
    simp only [slots, List.mem_cons, List.not_mem_nil, or_false] at membership
    rcases membership with rfl | rfl | rfl | rfl | rfl | rfl | rfl | rfl
    · refine ⟨_, _, rfl, fun filled absent => given_of_not_mem _ absent,
        fun text spelled => (symbol.kind.reads holds spelled).map _, fun filled => ?_⟩
      simp [view, given_cons_of_ne, Slot.always]
    · refine ⟨_, _, rfl, fun filled absent => given_of_not_mem _ absent,
        fun text spelled => (reads_isString holds spelled).map _, fun filled => ?_⟩
      simp [view, given_cons_of_ne, Slot.always]
    · refine ⟨_, _, rfl, fun filled absent => given_of_not_mem _ absent,
        fun text spelled => (reads_isString holds spelled).map _, fun filled => ?_⟩
      simp [view, given_cons_of_ne, Slot.always]
    · refine ⟨_, _, rfl, fun filled absent => given_of_not_mem _ absent,
        fun text spelled => (reads_isString holds spelled).map _, fun filled => ?_⟩
      simp [view, given_cons_of_ne, Slot.always]
    · refine ⟨_, _, rfl, fun filled absent => given_of_not_mem _ absent,
        fun text spelled => (reads_maybe_string holds spelled).map _, fun filled => ?_⟩
      simp [view, given_cons_of_ne, Slot.maybe]
    · refine ⟨_, _, rfl, fun filled absent => given_of_not_mem _ absent,
        fun text spelled => (reads_maybe ?_ ?_ holds spelled).map _, fun filled => ?_⟩
      · rintro present ⟨items, absurdity, -⟩
        cases absurdity
      · rintro present - json ⟨items, rfl, forms⟩ text spelled
        exact reads_parameters forms spelled
      · simp [view, given_cons_of_ne, Slot.maybe]
    · refine ⟨_, _, rfl, fun filled absent => given_of_not_mem _ absent,
        fun text spelled => (reads_maybe_string holds spelled).map _, fun filled => ?_⟩
      simp [view, given_cons_of_ne, Slot.maybe]
    · refine ⟨_, _, rfl, fun filled absent => given_of_not_mem _ absent,
        fun text spelled => (reads_maybe ?_ ?_ holds spelled).map _, fun filled => ?_⟩
      · rintro present ⟨members, absurdity, -⟩
        cases absurdity
      · intro present same json form text spelled
        obtain ⟨-, -, reads⟩ := (present.portrays (fits present same)).reads form
        exact reads text spelled
      · simp [view, given_cons_of_ne, Slot.maybe]
  build := by
    intro filled complete
    simp only [slots, List.forall_mem_cons] at complete
    obtain ⟨kind, name, type, signature, documentation, parameters, returns, location, -⟩ := complete
    have kind : "kind" ∈ filled := kind trivial
    have name : "name" ∈ filled := name trivial
    have type : "type" ∈ filled := type trivial
    have signature : "signature" ∈ filled := signature trivial
    change _ → "documentation" ∈ filled at documentation
    change _ → "parameters" ∈ filled at parameters
    change _ → "returnDoc" ∈ filled at returns
    change _ → "location" ∈ filled at location
    simp only [record, view, given_of_mem _ kind, given_of_mem _ name, given_of_mem _ type,
      given_of_mem _ signature, join_given documentation, join_given parameters, join_given returns,
      join_given location, required]
    rfl

def Failure.view (failure : Failure) (filled : List String) : FailureFields where
  code := given filled "code" failure.code
  message := given filled "message" failure.message

theorem Failure.portrays (failure : Failure) :
    Portrays Failure.record failure.slots failure.view fun _ => failure where
  empty := rfl
  fills := by
    intro slot membership json holds
    simp only [Failure.slots, List.mem_cons, List.not_mem_nil, or_false] at membership
    rcases membership with rfl | rfl
    · refine ⟨_, _, rfl, fun filled absent => given_of_not_mem _ absent,
        fun text spelled => (reads_isString holds spelled).map _, fun filled => ?_⟩
      simp [Failure.view, given_cons_of_ne, Slot.always]
    · refine ⟨_, _, rfl, fun filled absent => given_of_not_mem _ absent,
        fun text spelled => (reads_isString holds spelled).map _, fun filled => ?_⟩
      simp [Failure.view, given_cons_of_ne, Slot.always]
  build := by
    intro filled complete
    simp only [Failure.slots, List.forall_mem_cons] at complete
    obtain ⟨code, message, -⟩ := complete
    have code : "code" ∈ filled := code trivial
    have message : "message" ∈ filled := message trivial
    simp only [Failure.record, Failure.view, given_of_mem _ code, given_of_mem _ message, required]
    rfl

/-! ### Envelopes -/

def Envelope.view (success : Bool) (result : Option Symbol) (error : Option Failure)
    (filled : List String) : EnvelopeFields where
  success := given filled "success" success
  result := given filled "result" result
  error := given filled "error" error

theorem Envelope.portrays (success : Bool) (result : Option Symbol) (error : Option Failure)
    (fits : ∀ symbol, result = some symbol → symbol.Fits) :
    Portrays Envelope.record (Envelope.slots success result error)
      (Envelope.view success result error) fun filled =>
        ⟨success, (given filled "result" result).join, (given filled "error" error).join⟩ where
  empty := rfl
  fills := by
    intro slot membership json holds
    simp only [Envelope.slots, List.mem_cons, List.not_mem_nil, or_false] at membership
    rcases membership with rfl | rfl | rfl
    · obtain rfl : json = .bool success := holds
      refine ⟨_, _, rfl, fun filled absent => given_of_not_mem _ absent,
        fun text spelled => (reads_boolean spelled).map _, fun filled => ?_⟩
      simp [Envelope.view, given_cons_of_ne, Slot.always]
    · change (Slot.maybe "result" result fun symbol => HasForm symbol.slots).holds json at holds
      refine ⟨_, _, rfl, fun filled absent => given_of_not_mem _ absent,
        fun text spelled => (reads_maybe ?_ ?_ holds spelled).map _, fun filled => ?_⟩
      · rintro present ⟨members, absurdity, -⟩
        cases absurdity
      · intro present same json form text spelled
        obtain ⟨-, -, reads⟩ := (present.portrays (fits present same)).reads form
        exact reads text spelled
      · simp [Envelope.view, given_cons_of_ne, Slot.maybe, Slot.inCase]
    · change (Slot.maybe "error" error fun failure => HasForm failure.slots).holds json at holds
      refine ⟨_, _, rfl, fun filled absent => given_of_not_mem _ absent,
        fun text spelled => (reads_maybe ?_ ?_ holds spelled).map _, fun filled => ?_⟩
      · rintro present ⟨members, absurdity, -⟩
        cases absurdity
      · intro present _ json form text spelled
        obtain ⟨-, -, reads⟩ := present.portrays.reads form
        exact reads text spelled
      · simp [Envelope.view, given_cons_of_ne, Slot.maybe, Slot.inCase]
  build := by
    intro filled complete
    simp only [Envelope.slots, List.forall_mem_cons] at complete
    obtain ⟨success, -⟩ := complete
    have success : "success" ∈ filled := success trivial
    simp only [Envelope.record, Envelope.view, given_of_mem _ success, required]
    rfl

theorem IsEnvelope.reads {answer : Except Failure Symbol}
    (fits : ∀ symbol, answer = .ok symbol → symbol.Fits) {json : Json}
    (isEnvelope : IsEnvelope answer json) :
    ∃ made : Envelope, made.answer = answer ∧
      ∀ text, Spells json text → Reads Envelope.record.read text made := by
  cases answer with
  | ok symbol =>
    obtain ⟨error, form⟩ := isEnvelope
    have fits : ∀ other, some symbol = some other → other.Fits := by
      rintro other ⟨⟩
      exact fits symbol rfl
    obtain ⟨filled, complete, reads⟩ := (Envelope.portrays true (some symbol) error fits).reads form
    have result : "result" ∈ filled := complete _ (.tail _ (.head _)) rfl
    refine ⟨_, ?_, reads⟩
    rw [given_of_mem _ result]
    rfl
  | error failure =>
    obtain ⟨result, fits, form⟩ := isEnvelope
    obtain ⟨filled, complete, reads⟩ :=
      (Envelope.portrays false result (some failure) fits).reads form
    have error : "error" ∈ filled := complete _ (.tail _ (.tail _ (.head _))) rfl
    refine ⟨_, ?_, reads⟩
    rw [given_of_mem _ error]
    rfl

theorem Parameter.toJson_form (parameter : Parameter) :
    HasForm parameter.slots parameter.toJson ∧ Spells parameter.toJson (write parameter.toJson) := by
  have filled : List.Forall₂ Slot.FilledBy parameter.slots
      [("name", some (.string parameter.name)),
       ("documentation", parameter.documentation.map .string)] :=
    .cons filledBy_string (.cons filledBy_strings .nil)
  exact ⟨hasForm_ofMembers (by simp) filled, spells_ofMembers filled⟩

theorem Location.toJson_form (location : Location) :
    HasForm location.slots location.toJson ∧ Spells location.toJson (write location.toJson) := by
  have filled : List.Forall₂ Slot.FilledBy location.slots
      [("file", location.file.map .string),
       ("line", some (Json.nat location.line)),
       ("column", some (Json.nat location.column))] :=
    .cons filledBy_strings (.cons filledBy_number (.cons filledBy_number .nil))
  exact ⟨hasForm_ofMembers (by simp) filled, spells_ofMembers filled⟩

theorem toJson_form (symbol : Symbol) :
    HasForm symbol.slots symbol.toJson ∧ Spells symbol.toJson (write symbol.toJson) := by
  have filled : List.Forall₂ Slot.FilledBy symbol.slots
      [("kind", some (.string symbol.kind.name)),
       ("name", some (.string symbol.name)),
       ("type", some (.string symbol.type)),
       ("signature", some (.string symbol.signature)),
       ("documentation", symbol.documentation.map .string),
       ("parameters", symbol.parameters.map fun parameters =>
         .array (parameters.map Parameter.toJson)),
       ("returnDoc", symbol.returns.map .string),
       ("location", symbol.location.map Location.toJson)] := by
    refine .cons (filledBy_always (.inl rfl) (spells_string _)) (.cons filledBy_string
      (.cons filledBy_string (.cons filledBy_string (.cons filledBy_strings (.cons ?_
        (.cons filledBy_strings (.cons ?_ .nil)))))))
    · refine filledBy_maybe fun parameters _ => ⟨⟨_, rfl, ?_⟩, spells_array _ ?_⟩
      · rw [List.forall₂_map_left_iff, List.forall₂_same]
        exact fun parameter _ => parameter.toJson_form.1
      · intro item membership
        obtain ⟨parameter, -, rfl⟩ := List.mem_map.mp membership
        exact parameter.toJson_form.2
    · exact filledBy_maybe fun location _ => location.toJson_form
  exact ⟨hasForm_ofMembers (by simp) filled, spells_ofMembers filled⟩

theorem Failure.toJson_form (failure : Failure) :
    HasForm failure.slots failure.toJson ∧ Spells failure.toJson (write failure.toJson) := by
  have filled : List.Forall₂ Slot.FilledBy failure.slots
      [("code", some (.string failure.code)), ("message", some (.string failure.message))] :=
    .cons filledBy_string (.cons filledBy_string .nil)
  exact ⟨hasForm_ofMembers (by simp) filled, spells_ofMembers filled⟩

theorem envelope_form (answer : Except Failure Symbol) :
    IsEnvelope answer (envelope answer) ∧ Spells (envelope answer) (write (envelope answer)) := by
  cases answer with
  | ok symbol =>
    have filled : List.Forall₂ Slot.FilledBy (Envelope.slots true (some symbol) none)
        [("success", some (.bool true)), ("result", (some symbol).map toJson),
         ("error", (none : Option Failure).map Failure.toJson)] := by
      refine .cons filledBy_boolean (.cons (Slot.FilledBy.inCase (filledBy_maybe ?_) ?_)
        (.cons (Slot.FilledBy.inCase (filledBy_maybe ?_) ?_) .nil))
      · exact fun symbol _ => symbol.toJson_form
      · exact fun _ => rfl
      · exact fun failure _ => failure.toJson_form
      · exact fun other => Bool.noConfusion other
    exact ⟨⟨none, hasForm_ofMembers (by simp) filled⟩, spells_ofMembers filled⟩
  | error failure =>
    have filled : List.Forall₂ Slot.FilledBy (Envelope.slots false none (some failure))
        [("success", some (.bool false)), ("result", (none : Option Symbol).map toJson),
         ("error", (some failure).map Failure.toJson)] := by
      refine .cons filledBy_boolean (.cons (Slot.FilledBy.inCase (filledBy_maybe ?_) ?_)
        (.cons (Slot.FilledBy.inCase (filledBy_maybe ?_) ?_) .nil))
      · exact fun symbol _ => symbol.toJson_form
      · exact fun other => Bool.noConfusion other
      · exact fun failure _ => failure.toJson_form
      · exact fun _ => rfl
    refine ⟨⟨none, ?_, hasForm_ofMembers (by simp) filled⟩, spells_ofMembers filled⟩
    intro symbol absurdity
    cases absurdity

theorem IsEnvelope.spelled {answer : Except Failure Symbol} {json : Json}
    (isEnvelope : IsEnvelope answer json) {text : List Char} (spelled : Spells json text) :
    ∃ inner, text = '{' :: inner ++ ['\x7d'] := by
  cases answer with
  | ok symbol =>
    obtain ⟨_, form⟩ := isEnvelope
    exact form.spelled spelled
  | error failure =>
    obtain ⟨_, _, form⟩ := isEnvelope
    exact form.spelled spelled

theorem ofOutput_spelled {answer : Except Failure Symbol}
    (fits : ∀ symbol, answer = .ok symbol → symbol.Fits) {json : Json} {text : List Char}
    (isEnvelope : IsEnvelope answer json) (spelled : Spells json text) (left right : List Char)
    (before : ∀ c ∈ left, Text.isBlank c = true) (after : ∀ c ∈ right, Text.isBlank c = true) :
    ofOutput (left ++ text ++ right) = answer := by
  obtain ⟨made, answers, reads⟩ := isEnvelope.reads fits
  obtain ⟨inner, braces⟩ := isEnvelope.spelled spelled
  have trimmed : Text.IsTrimmed (left ++ text ++ right) text := by
    refine ⟨⟨left, right, rfl, before, after⟩, ?_, ?_⟩
    · rw [braces]
      rintro c ⟨⟩
      decide
    · rw [braces, List.getLast?_concat]
      rintro c ⟨⟩
      decide
  rw [ofOutput, ← trimmed.eq_trim, all_of_reads (reads text spelled)]
  exact answers

/-- An answer is read from every text that gives it, with white space around: the members of every
object may stand in any order, with any space between them and any escapes in strings, `null` may
stand for what is absent, a kind may have a capital, and what is not announced may be there. The text
that the compiler prints is one of them. -/
theorem answers_read_back (answer : Except Failure Symbol)
    (fits : ∀ symbol, answer = .ok symbol → symbol.Fits) :
    (∀ json text left right, IsEnvelope answer json → Spells json text →
      (∀ c ∈ left, Text.isBlank c = true) → (∀ c ∈ right, Text.isBlank c = true) →
        ofOutput (left ++ text ++ right) = answer) ∧
      IsEnvelope answer (envelope answer) ∧ Spells (envelope answer) (write (envelope answer)) ∧
      ofOutput (write (envelope answer)) = answer := by
  obtain ⟨isEnvelope, spelled⟩ := envelope_form answer
  refine ⟨?_, isEnvelope, spelled, ?_⟩
  · intro json text left right isEnvelope spelled
    exact ofOutput_spelled fits isEnvelope spelled left right
  have plain := ofOutput_spelled fits isEnvelope spelled [] [] (by simp) (by simp)
  rwa [List.nil_append, List.append_nil] at plain

/-- A symbol whose place fits is read back. -/
theorem placed_symbol_reads_back :
    let answer : Except Failure Symbol :=
      .ok ⟨.struct, "p", "", "", none, some [⟨"x", none⟩], none, some ⟨none, 3, 4⟩⟩
    (∀ symbol, answer = .ok symbol → symbol.Fits) ∧ ofOutput (write (envelope answer)) = answer := by
  intro answer
  have fits : ∀ symbol, answer = .ok symbol → symbol.Fits := by
    intro symbol same location placed
    obtain rfl := Except.ok.inj same
    obtain rfl := Option.some.inj placed
    exact ⟨by decide, by decide⟩
  exact ⟨fits, (answers_read_back answer fits).2.2.2⟩

example : ofOutput "\u00a0\x7b\"error\":null, \"result\" : \x7b\"signature\":\"\",\"type\":\"\\u0061\",
      \"kind\":\"Struct\",\"location\":null,\"name\":\"\\ud83d\\uDE00\"\x7d,\"success\":true\x7d\n".toList =
    .ok ⟨.struct, "😀", "a", "", none, none, none, none⟩ := by
  decide +kernel

end LanguageServer.Symbol
