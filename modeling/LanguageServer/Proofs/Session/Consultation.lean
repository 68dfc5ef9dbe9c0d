import LanguageServer.Proofs.Session.Custody

/-! Questions that nothing disturbs, from the moment at which they are asked to their answer. Such a
question calls the compiler once or not at all, and it is answered once. -/

namespace LanguageServer.Session

/-- The answer to a question that an effect tells, with the number of the question. -/
def Effect.reply? : Effect → Option (OperationId × Option Reply)
  | .done id (.reply reply) => some (id, reply)
  | _ => none

/-- The answers to questions that effects tell. -/
def answers (effects : List Effect) : List (OperationId × Option Reply) :=
  effects.filterMap Effect.reply?

@[simp]
theorem answers_append (first second : List Effect) :
    answers (first ++ second) = answers first ++ answers second :=
  List.filterMap_append

/-- A question that nothing disturbs. -/
structure Consultation where
  host : Host
  uri : Uri
  question : Question
  /-- What the editor answers if it is asked for the settings of the document. -/
  answer : Option Json
  /-- How the compiler ends if it is called. -/
  ending : Compiler.Ending

namespace Consultation

/-- What a consultation brings about. An input for which nothing waits changes nothing, so the editor
and the compiler are heard only if they were asked. -/
def effects (consultation : Consultation) (session : Session) : List Effect :=
  let id := session.nextOperation
  let ⟨host, uri, question, answer, ending⟩ := consultation
  (session.moments [.input host (.start (.ask uri question)), .input host (.settings id answer),
    .input host (.ended id ending)]).flatMap Moment.effects

/-- The calls of the compiler that a consultation makes. -/
def calls (consultation : Consultation) (session : Session) : List Invocation :=
  invocations (consultation.effects session)

/-- The answers that a consultation gives. -/
def replies (consultation : Consultation) (session : Session) : List (OperationId × Option Reply) :=
  answers (consultation.effects session)

/-- The settings of a document in a consultation: those that the session knows, or the editor's. -/
def settings (consultation : Consultation) (session : Session) (uri : Uri) : Settings :=
  (session.settings? uri).getD (layered session.general consultation.answer)

end Consultation

/-! ### Questions that know their settings -/

section Query

variable (host : Host) (session : Session) (id : OperationId) (inquiry : Inquiry)
  (settings : Settings)

theorem query_called {executable file : Path} {document : Document}
    (found : host.locate settings = some executable)
    (present : session.documents.get? inquiry.uri = some document)
    (made : host.scratch id = some file) :
    session.query host id inquiry settings =
      (({ session with compiler := some executable }.store file document.text).suspend id
          (.asking inquiry executable file),
        [.call id executable (Compiler.queryArguments file inquiry.line inquiry.column)
          document.text]) := by
  unfold query
  rw [resolve_found host session settings executable found]
  dsimp only
  rw [present, made]
  rfl

theorem query_ended
    (missing : host.locate settings = none ∨ session.documents.get? inquiry.uri = none ∨
      host.scratch id = none) :
    session.query host id inquiry settings =
      ((session.resolve host settings).1.finish id,
        (session.resolve host settings).2.2 ++ [.done id (.reply none)]) := by
  have found := resolve_second host session settings
  have documents := resolve_documents host session settings
  unfold query
  generalize session.resolve host settings = search at found documents ⊢
  obtain ⟨resolved, executable, notices⟩ := search
  dsimp only at found documents ⊢
  rw [found, documents]
  split
  · rename_i located present made
    rw [located, present, made] at missing
    simp at missing
  · rfl

theorem answers_resolve : answers (session.resolve host settings).2.2 = [] := by
  unfold resolve
  dsimp only
  split <;> rfl

theorem answers_alarm (detail : String) : answers (session.alarm detail).2 = [] := by
  unfold alarm
  split <;> rfl

theorem answers_answered (executable scratch : Path) (ending : Compiler.Ending) :
    answers (session.answered id inquiry executable scratch ending).2 =
      [(id, inquiry.reply? ((Compiler.symbol executable ending).map (withoutScratch scratch)))] := by
  unfold answered
  dsimp only
  split
  · rename_i symbol same
    rw [same]
    rfl
  · rename_i failure same
    rw [same]
    split
    · rw [answers_append, answers_alarm]
      rfl
    · rfl

end Query

/-! ### The course of a consultation -/

/-- What a question does once it knows its settings: it calls the compiler and hears of its end, or it
ends at once. -/
def inquired (host : Host) (session : Session) (id : OperationId) (inquiry : Inquiry)
    (settings : Settings) (ending : Compiler.Ending) : List Effect :=
  let asked := session.query host id inquiry settings
  asked.2 ++ (asked.1.step host (.ended id ending)).2

theorem inquired_called {host : Host} {session : Session} {id : OperationId} {inquiry : Inquiry}
    {settings : Settings} {executable file : Path} {document : Document}
    (found : host.locate settings = some executable)
    (present : session.documents.get? inquiry.uri = some document)
    (made : host.scratch id = some file) (ending : Compiler.Ending) :
    invocations (session.inquired host id inquiry settings ending) =
        [⟨id, executable, Compiler.queryArguments file inquiry.line inquiry.column,
          document.text⟩] ∧
      answers (session.inquired host id inquiry settings ending) =
        [(id, inquiry.reply? ((Compiler.symbol executable ending).map (withoutScratch file)))] := by
  unfold inquired
  rw [query_called host session id inquiry settings found present made]
  simp only [step, suspend, Table.get?_put_self, invocations_append, answers_append]
  rw [invocations_of_idle (answered_cases ..).2, answers_answered]
  exact ⟨rfl, rfl⟩

theorem inquired_ended {host : Host} {session : Session} {id : OperationId} {inquiry : Inquiry}
    {settings : Settings}
    (missing : host.locate settings = none ∨ session.documents.get? inquiry.uri = none ∨
      host.scratch id = none) (ending : Compiler.Ending) :
    invocations (session.inquired host id inquiry settings ending) = [] ∧
      answers (session.inquired host id inquiry settings ending) = [(id, none)] := by
  unfold inquired
  rw [query_ended host session id inquiry settings missing]
  simp only [step, finish, Table.get?_erase_self, invocations_append, answers_append]
  rw [invocations_of_idle (idle_resolve host session settings), answers_resolve]
  exact ⟨rfl, rfl⟩

namespace Consultation

variable (consultation : Consultation) (session : Session)

theorem effects_of_none
    (about : session.inquiry? consultation.uri consultation.question = none) :
    consultation.effects session = [.done session.nextOperation (.reply none)] := by
  obtain ⟨host, uri, question, answer, ending⟩ := consultation
  have drawn : session.draw.1.inquiry? uri question = none := about
  have begins : session.react (.input host (.start (.ask uri question))) =
      (session.draw.1.finish session.nextOperation,
        [.done session.nextOperation (.reply none)]) := by
    simp only [react, step, start, ask, draw] at drawn ⊢
    rw [drawn]
    rfl
  simp only [effects, moments_cons, moments_nil, begins, List.flatMap_cons, List.flatMap_nil,
    Moment.effects]
  simp [react, step, finish]

/-- A question about a place goes on with the settings that hold for its document, after the editor
has been asked for them if they are not known. -/
theorem effects_of_some {inquiry : Inquiry}
    (about : session.inquiry? consultation.uri consultation.question = some inquiry) :
    ∃ (requests : List Effect) (base : Session), consultation.effects session =
        requests ++ base.inquired consultation.host session.nextOperation inquiry
          (consultation.settings session inquiry.uri) consultation.ending ∧
      base.documents = session.documents ∧ invocations requests = [] ∧ answers requests = [] := by
  obtain ⟨host, uri, question, answer, ending⟩ := consultation
  have drawn : session.draw.1.inquiry? uri question = some inquiry := about
  cases known : session.settings? inquiry.uri with
  | some held =>
    have informed : session.draw.1.settings? inquiry.uri = some held := known
    have begins : session.react (.input host (.start (.ask uri question))) =
        session.draw.1.query host session.nextOperation inquiry held := by
      simp only [react, step, start, ask, inquire, draw] at drawn informed ⊢
      rw [drawn]
      dsimp only
      rw [informed]
    -- the question does not wait for settings, so an answer does nothing
    have unheard : (session.draw.1.query host session.nextOperation inquiry held).1.react
        (.input host (.settings session.nextOperation answer)) =
        ((session.draw.1.query host session.nextOperation inquiry held).1, []) := by
      rcases query_cases host session.draw.1 session.nextOperation inquiry held with
        ⟨executable, file, text, put, -⟩ | ⟨gone, -⟩
      · simp [react, step, put]
      · simp [react, step, gone]
    refine ⟨[], session.draw.1, ?_, rfl, rfl, rfl⟩
    simp only [effects, moments_cons, moments_nil, begins, unheard, List.flatMap_cons,
      List.flatMap_nil, Moment.effects, Consultation.settings, known, Option.getD_some, List.nil_append,
      List.append_nil]
    rfl
  | none =>
    have informed : session.draw.1.settings? inquiry.uri = none := known
    have begins : session.react (.input host (.start (.ask uri question))) =
        (session.draw.1.suspend session.nextOperation (.fetching (.inquire inquiry)),
          [.fetch session.nextOperation (some inquiry.uri)]) := by
      simp only [react, step, start, ask, inquire, draw] at drawn informed ⊢
      rw [drawn]
      dsimp only
      rw [informed]
    let waiting := session.draw.1.suspend session.nextOperation (.fetching (.inquire inquiry))
    have heard : waiting.react (.input host (.settings session.nextOperation answer)) =
        (waiting.keep inquiry.uri (layered session.general answer)).query host
          session.nextOperation inquiry (layered session.general answer) := by
      simp only [react, step, waiting, suspend, Table.get?_put_self]
      rfl
    refine ⟨[.fetch session.nextOperation (some inquiry.uri)],
      waiting.keep inquiry.uri (layered session.general answer), ?_, ?_, rfl, rfl⟩
    · simp only [effects, moments_cons, moments_nil, begins, List.flatMap_cons, List.flatMap_nil,
        Moment.effects, Consultation.settings, known, Option.getD_none, List.append_nil]
      change _ ++ ((waiting.react _).2 ++ ((waiting.react _).1.react _).2) = _
      rw [heard]
      rfl
    · unfold keep
      split <;> rfl

/-- What becomes of a consultation. -/
inductive Course : Prop
  /-- It calls the compiler, and the answer is made of what the compiler says. -/
  | asks (inquiry : Inquiry) (document : Document) (executable file : Path)
      (about : session.inquiry? consultation.uri consultation.question = some inquiry)
      (located : consultation.host.locate (consultation.settings session inquiry.uri) =
        some executable)
      (present : session.documents.get? inquiry.uri = some document)
      (made : consultation.host.scratch session.nextOperation = some file)
      (calls : consultation.calls session = [⟨session.nextOperation, executable,
        Compiler.queryArguments file inquiry.line inquiry.column, document.text⟩])
      (replies : consultation.replies session = [(session.nextOperation, inquiry.reply?
        ((Compiler.symbol executable consultation.ending).map (withoutScratch file)))])
  /-- It is about no place, or something is missing that a call needs. -/
  | ends
      (missing : ∀ inquiry,
        session.inquiry? consultation.uri consultation.question = some inquiry →
        consultation.host.locate (consultation.settings session inquiry.uri) = none ∨
          session.documents.get? inquiry.uri = none ∨
          consultation.host.scratch session.nextOperation = none)
      (calls : consultation.calls session = [])
      (replies : consultation.replies session = [(session.nextOperation, none)])

theorem course : consultation.Course session := by
  cases about : session.inquiry? consultation.uri consultation.question with
  | none =>
    have all := effects_of_none consultation session about
    refine .ends ?_ ?_ ?_
    · intro inquiry found
      rw [about] at found
      cases found
    · rw [calls, all]
      rfl
    · rw [replies, all]
      rfl
  | some inquiry =>
    obtain ⟨requests, base, all, documents, uncalled, unanswered⟩ :=
      effects_of_some consultation session about
    have ends : (consultation.host.locate (consultation.settings session inquiry.uri) = none ∨
        session.documents.get? inquiry.uri = none ∨
        consultation.host.scratch session.nextOperation = none) → consultation.Course session := by
      intro missing
      obtain ⟨called, told⟩ := inquired_ended (documents ▸ missing) consultation.ending
      refine .ends ?_ ?_ ?_
      · intro other found
        obtain rfl := Option.some.inj (about.symm.trans found)
        exact missing
      · rw [calls, all, invocations_append, uncalled, called]
        rfl
      · rw [replies, all, answers_append, unanswered, told]
        rfl
    cases located : consultation.host.locate (consultation.settings session inquiry.uri) with
    | none => exact ends (.inl located)
    | some executable =>
      cases present : session.documents.get? inquiry.uri with
      | none => exact ends (.inr (.inl present))
      | some document =>
        cases made : consultation.host.scratch session.nextOperation with
        | none => exact ends (.inr (.inr made))
        | some file =>
          obtain ⟨called, told⟩ :=
            inquired_called located (documents ▸ present) made consultation.ending
          refine .asks inquiry document executable file about located present made ?_ ?_
          · rw [calls, all, invocations_append, uncalled, called]
            rfl
          · rw [replies, all, answers_append, unanswered, told]
            rfl

end Consultation

end LanguageServer.Session
