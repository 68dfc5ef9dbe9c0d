import LanguageServer.Proofs.Scenario.Sound

/-! The portrait of a document: what a timed run holds in store for it, without the numbers of
operations, of revisions and of timers. What happens to the portrait of one document does not depend on
the others. -/

namespace LanguageServer.Scenario

open Session

/-! ### Portraits -/

/-- What is planned for a document. -/
inductive Token
  /-- It has been at rest. -/
  | rest
  /-- A validation begins, perhaps because the document has been at rest. -/
  | begin (atRest : Bool)
  /-- The call of its latest check ends. -/
  | finish (version : Int) (limit : Nat) (ending : Compiler.Ending)

/-- Whether something is still planned when the rests of the document, or the calls for it, have lost
their meaning. -/
def Token.survives (rests calls : Bool) : Token → Bool
  | .rest => !rests
  | .begin _ => true
  | .finish .. => !calls

/-- What a timed run holds in store for a document. -/
structure Portrait where
  document : Option Document
  general : Settings
  entries : List (Nat × Token)

/-- How the compiler answers to a check with an executable and a text: how long it takes, and how it
ends. -/
abbrev Checker := Path → String → Nat × Compiler.Ending

/-- How the compiler answers at a time to a check of a file. -/
def Surroundings.answer (surroundings : Surroundings) (now : Nat) (file : Path) : Checker :=
  fun executable text =>
    surroundings.compiler.call now executable (Compiler.checkArguments file) text

namespace Portrait

/-- The rests of the document, or the calls for it, lose their meaning. -/
def shed (rests calls : Bool) (portrait : Portrait) : Portrait :=
  { portrait with entries := portrait.entries.filter fun entry => entry.2.survives rests calls }

def plan (now : Nat) (time : Agenda.When) (token : Token) (portrait : Portrait) : Portrait :=
  { portrait with entries := (Agenda.plan ⟨now, portrait.entries⟩ (time, token)).entries }

/-- The document is validated if there is a compiler for it and it is open. -/
def validate (surroundings : Surroundings) (answer : Checker) (now : Nat) (atRest : Bool)
    (portrait : Portrait) : Portrait × List Sight :=
  match surroundings.locate portrait.general, portrait.document with
  | some executable, some document =>
    let (delay, ending) := answer executable document.text
    ((portrait.shed false true).plan now (World.afterDelay delay)
        (.finish document.version portrait.general.maxDiagnostics ending),
      [.called atRest executable document.text])
  | _, _ => (portrait, [])

/-- Something happens that was planned. -/
def take (surroundings : Surroundings) (answer : Checker) (now : Nat) (portrait : Portrait) :
    Token → Portrait × List Sight
  | .rest => (portrait.shed true false).validate surroundings answer now true
  | .begin atRest => portrait.validate surroundings answer now atRest
  | .finish version limit ending =>
    (portrait, match Compiler.diagnostics ending with
      | .ok found => [.shown (found.take limit) version]
      | .error _ => [])

/-- Something happens that was planned, and perhaps means something for the document. -/
def proceed (surroundings : Surroundings) (answer : Checker) (now : Nat) (portrait : Portrait) :
    Option Token → Portrait × List Sight
  | some token => portrait.take surroundings answer now token
  | none => (portrait, [])

def receive (surroundings : Surroundings) (answer : Checker) (now : Nat) (uri : Uri)
    (portrait : Portrait) : Request → Portrait × List Sight
  | .open other text version =>
    if other = uri then
      let opened := { portrait with document := some ⟨text, version⟩ }
      if portrait.document.isSome then (opened, [])
      else opened.validate surroundings answer now false
    else (portrait, [])
  | .change other text version =>
    match portrait.document with
    | some document =>
      if other = uri then
        (({ portrait with document := some (document.update text version) }.shed true false).plan
          now (.after surroundings.rest) .rest, [])
      else (portrait, [])
    | none => (portrait, [])
  | .close other =>
    if other = uri then ({ portrait with document := none }.shed true true, [])
    else (portrait, [])
  | .shutdown => (portrait.shed true false, [])
  | .validate other =>
    if other = uri then portrait.validate surroundings answer now false else (portrait, [])
  | .configure settings =>
    let changed := { portrait with general := settings.getD portrait.general }
    if portrait.document.isSome ∧
        surroundings.locate portrait.general ≠ surroundings.locate changed.general then
      (changed.plan now (.after 0) (.begin false), [])
    else (changed, [])
  | .ask _ _ => (portrait, [])

end Portrait

/-! ### The portrait that a trial gives -/

/-- What an input means for a document, if it means anything. -/
def token? (session : Session) (uri : Uri) : Input → Option Token
  | .rested other ticket =>
    if other = uri ∧ session.timers.pending.get? uri = some ticket then some .rest else none
  | .turn id =>
    match session.standing? id with
    | some (.preparing other cause) =>
      if other = uri then some (.begin (cause = .rest)) else none
    | _ => none
  | .ended id ending =>
    match session.standing? id with
    | some (.checking check) =>
      if check.uri = uri ∧ session.latest.get? uri = some check.revision then
        some (.finish check.version check.limit ending)
      else none
    | _ => none
  | _ => none

def Trial.portrait (uri : Uri) (trial : Trial) : Portrait where
  document := trial.state.session.documents.get? uri
  general := trial.state.session.general
  entries := Agenda.selected (token? trial.state.session uri) trial.agenda.entries

/-- The rests of a document lose their meaning, or keep it. -/
def DropsRests (uri : Uri) (before after : Session) : Bool → Prop
  | true => ∀ ticket, ticket < before.timers.nextTicket →
      after.timers.pending.get? uri ≠ some ticket
  | false => after.timers.pending.get? uri = before.timers.pending.get? uri

/-- The calls for a document lose their meaning, or keep it. -/
def DropsCalls (uri : Uri) (before after : Session) : Bool → Prop
  | true => ∀ revision, revision ≤ before.revision → after.latest.get? uri ≠ some revision
  | false => after.latest.get? uri = before.latest.get? uri

namespace Trial

variable {trial : Trial} {input : Input}

/-- A token that stands for a number, as long as this is the present one, is left if the number stays
the present one. -/
theorem present_token {holds : Prop} [Decidable holds] {before after : Option Nat} {number : Nat}
    {drops : Bool} {survives : Token → Bool} {token : Token} (left : survives token = !drops)
    (dropped : drops = true → after ≠ some number) (kept : drops = false → after = before) :
    (if holds ∧ after = some number then some token else none) =
      (if holds ∧ before = some number then some token else none).filter survives := by
  cases drops with
  | true =>
    rw [if_neg fun both => dropped rfl both.2]
    split
    · exact (Option.filter_some_neg left).symm
    · rfl
  | false =>
    rw [kept rfl]
    split
    · exact (Option.filter_some_pos left).symm
    · rfl

/-- What an entry means after an input that is not for it. -/
theorem token?_after (sound : trial.Sound)
    (apart : trial.Apart input)
    {uri : Uri} {rests calls : Bool}
    (dropsRests : DropsRests uri trial.state.session (trial.state.moment input).after rests)
    (dropsCalls : DropsCalls uri trial.state.session (trial.state.moment input).after calls)
    {entry : Nat × Input} (member : entry ∈ trial.agenda.entries) :
    token? (trial.state.moment input).after uri entry.2 =
      (token? trial.state.session uri entry.2).filter (Token.survives rests calls) := by
  obtain ⟨due, other⟩ := entry
  have expected := sound.expected _ member
  have standing : ∀ id, other.operation? = some id →
      (trial.state.moment input).after.standing? id = trial.state.session.standing? id := by
    intro id names
    refine Moment.standing_kept sound.revised.numbered (expected.drawn names) ?_
    intro same
    exact (apart _ member).validations id same names
  cases other with
  | start request => rfl
  | settings id answer => rfl
  | abandon id => rfl
  | turn id =>
    simp only [token?, standing id rfl]
    split
    · split
      · rfl
      · rfl
    · rfl
  | rested other ticket =>
    refine present_token rfl ?_ ?_
    · rintro rfl
      exact dropsRests ticket (expected.ticket rfl)
    · rintro rfl
      exact dropsRests
  | ended id ending =>
    simp only [token?, standing id rfl]
    split
    · rename_i check stands
      refine present_token rfl ?_ ?_
      · rintro rfl
        exact dropsCalls check.revision (sound.revised.drawn id check stands)
      · rintro rfl
        exact dropsCalls
    · rfl

end Trial

end LanguageServer.Scenario
