import LanguageServer.Proofs.Session.Cache

/-! Operations that expect settings of the editor, and what a moment does to them if no operation begins
while another is under way. -/

namespace LanguageServer.Session

/-! ### Operations that expect settings -/

/-- A stage that still leads to an answer of the editor, as it is. -/
def Stage.expecting? : Stage → Option Stage
  | .ready uri cause => some (.ready uri cause)
  | .fetching task => some (.fetching task)
  | .reconfiguring general => some (.reconfiguring general)
  | _ => none

/-- The document whose settings a stage leads to. -/
def Stage.about? : Stage → Option Uri
  | .ready uri _ => some uri
  | .fetching task => some task.uri
  | _ => none

/-- Where an operation stands, if it expects settings. -/
def expects? (session : Session) (id : OperationId) : Option Stage :=
  (session.operations.get? id).bind Stage.expecting?

/-- An operation needs the settings of a document. -/
def Needs (session : Session) (id : OperationId) (uri : Uri) : Prop :=
  ∃ stage, session.expects? id = some stage ∧ stage.about? = some uri

theorem Stage.expecting?_eq_some {stage kept : Stage} (same : stage.expecting? = some kept) :
    stage = kept := by
  cases stage <;> simp_all [expecting?]

theorem Stage.expecting?_released (stage : Stage) : stage.released.expecting? = stage.expecting? := by
  cases stage <;> rfl

section Tables

variable {session result : Session} {id : OperationId}

theorem operation_of_expects? {stage : Stage} (expects : session.expects? id = some stage) :
    session.operations.get? id = some stage := by
  obtain ⟨found, waits, same⟩ := Option.bind_eq_some_iff.mp expects
  rw [waits, Stage.expecting?_eq_some same]

theorem expects?_of_operation {stage : Stage} (waits : session.operations.get? id = some stage) :
    session.expects? id = stage.expecting? := by
  rw [expects?, waits]
  rfl

theorem expects?_of_same (same : result.operations = session.operations) (other : OperationId) :
    result.expects? other = session.expects? other := by
  rw [expects?, same]
  rfl

theorem expects?_put {stage : Stage}
    (entered : result.operations = session.operations.put id stage) (other : OperationId) :
    result.expects? other = if other = id then stage.expecting? else session.expects? other := by
  rw [expects?, entered, Table.get?_put]
  split <;> rfl

theorem expects?_erase (gone : result.operations = session.operations.erase id)
    (other : OperationId) :
    result.expects? other = if other = id then none else session.expects? other := by
  rw [expects?, gone, Table.get?_erase]
  split <;> rfl

theorem expects?_settle {cause : Cause}
    (ends : result.operations = cause.settle (session.operations.erase id)) (other : OperationId) :
    result.expects? other = if other = id then none else session.expects? other := by
  have settled : result.expects? other =
      ((session.operations.erase id).get? other).bind Stage.expecting? := by
    rw [expects?, ends, get?_settle]
    split
    · cases (session.operations.erase id).get? other with
      | none => rfl
      | some stage => exact Stage.expecting?_released stage
    · rfl
  rw [settled, Table.get?_erase]
  split <;> rfl

end Tables

/-- An operation goes on or ends without asking the editor, and expects nothing any more. -/
structure Frees (base : Session) (id : OperationId) (result : Session × List Effect) : Prop where
  expects : ∀ other, result.1.expects? other = if other = id then none else base.expects? other
  unasked : ∀ asker scope, .fetch asker scope ∉ result.2

/-- An operation asks the editor for the settings of a document that are not known. -/
structure Asks (base : Session) (id : OperationId) (uri : Uri) (result : Session × List Effect) :
    Prop where
  unknown : base.settings? uri = none
  waits : ∃ task : Task, task.uri = uri ∧
    result.1.operations = base.operations.put id (.fetching task)
  fetches : result.2 = [.fetch id (some uri)]

section Parts

variable (host : Host) (base : Session) (id : OperationId)

theorem unasked_of_idle {effects : List Effect} (idle : Idle effects) (asker : OperationId)
    (scope : Option Uri) : .fetch asker scope ∉ effects := by
  intro member
  exact idle _ member trivial

theorem frees_check (uri : Uri) (cause : Cause) (settings : Settings) :
    Frees base id (base.check host id uri cause settings) := by
  rcases check_cases host base id uri cause settings with
    ⟨executable, file, document, -, -, -, waits, -, calls⟩ | ⟨ends, idle⟩
  · exact ⟨expects?_put waits, by simp [calls]⟩
  · exact ⟨expects?_settle ends, unasked_of_idle idle⟩

theorem frees_query (inquiry : Inquiry) (settings : Settings) :
    Frees base id (base.query host id inquiry settings) := by
  rcases query_cases host base id inquiry settings with
    ⟨executable, file, text, waits, calls⟩ | ⟨gone, idle⟩
  · exact ⟨expects?_put waits, by simp [calls]⟩
  · exact ⟨expects?_erase gone, unasked_of_idle idle⟩

theorem frees_checked (check : Check) (ending : Compiler.Ending) :
    Frees base id (base.checked id check ending) := by
  obtain ⟨ends, idle⟩ := checked_cases base id check ending
  exact ⟨expects?_settle ends, unasked_of_idle idle⟩

theorem frees_answered (inquiry : Inquiry) (executable scratch : Path) (ending : Compiler.Ending) :
    Frees base id (base.answered id inquiry executable scratch ending) := by
  obtain ⟨gone, idle⟩ := answered_cases base id inquiry executable scratch ending
  exact ⟨expects?_erase gone, unasked_of_idle idle⟩

theorem asks_or_frees_validate (uri : Uri) (cause : Cause) :
    Asks base id uri (base.validate host id uri cause) ∨
      Frees base id (base.validate host id uri cause) := by
  unfold validate
  cases known : base.settings? uri with
  | none => exact .inl ⟨known, ⟨.validate uri cause, rfl, rfl⟩, rfl⟩
  | some settings => exact .inr (frees_check host base id uri cause settings)

theorem asks_or_frees_ask (uri : Uri) (question : Question) :
    (∃ scope, Asks base id scope (base.ask host id uri question)) ∨
      Frees base id (base.ask host id uri question) := by
  unfold ask
  cases base.inquiry? uri question with
  | none => exact .inr ⟨expects?_erase rfl, by simp [Session.reply]⟩
  | some inquiry =>
    simp only [inquire]
    cases known : base.settings? inquiry.uri with
    | none => exact .inl ⟨inquiry.uri, known, ⟨.inquire inquiry, rfl, rfl⟩, rfl⟩
    | some settings => exact .inr (frees_query host base id inquiry settings)

theorem frees_informed (task : Task) (answer : Option Json) :
    Frees base id (base.informed host id task answer) := by
  have same := operations_keep base task.uri (layered base.general answer)
  unfold informed
  dsimp only
  split
  · obtain ⟨expects, unasked⟩ := frees_check host (base.keep _ (layered base.general answer)) id _ _
      (layered base.general answer)
    refine ⟨fun other => ?_, unasked⟩
    rw [expects, expects?_of_same same]
  · obtain ⟨expects, unasked⟩ := frees_query host (base.keep _ (layered base.general answer)) id _
      (layered base.general answer)
    refine ⟨fun other => ?_, unasked⟩
    rw [expects, expects?_of_same same]

end Parts

theorem expects?_fanOut (session : Session) (change : OperationId) (uris : List Uri)
    {other : OperationId} {stage : Stage}
    (expects : (session.fanOut change uris).1.expects? other = some stage) :
    session.expects? other = some stage ∨ ∃ place uri, other = session.nextOperation + place ∧
      uris[place]? = some uri ∧ stage = .ready uri (.change change) := by
  rcases Nat.lt_or_ge other session.nextOperation with below | above
  · rw [expects?, fanOut_below session change uris below] at expects
    exact .inl expects
  · obtain ⟨place, rfl⟩ := Nat.exists_eq_add_of_le above
    rw [expects?, fanOut_above] at expects
    cases present : uris[place]? with
    | none =>
      rw [present] at expects
      exact .inl expects
    | some uri =>
      rw [present] at expects
      exact .inr ⟨place, uri, rfl, present, (Option.some.inj expects).symm⟩

/-- After a change of the configuration has gone on, only validations that it has made ready expect
settings, one for each open document. -/
theorem expects?_reconfigured (host : Host) (base : Session) (id : OperationId) (settings : Settings)
    (alone : ∀ other, other ≠ id → base.expects? other = none) {other : OperationId} {stage : Stage}
    (expects : (base.reconfigured host id settings).1.expects? other = some stage) :
    ∃ place uri, other = base.nextOperation + place ∧ base.documents.keys[place]? = some uri ∧
      stage = .ready uri (.change id) := by
  have unexpected : ∀ result : Session,
      (∀ other, result.expects? other = if other = id then none else base.expects? other) →
      result.expects? other ≠ some stage := by
    intro result freed
    rw [freed]
    split
    · simp
    · rename_i different
      simp [alone other different]
  unfold reconfigured at expects
  dsimp only at expects
  split at expects
  · exact absurd expects (unexpected _ (expects?_erase rfl))
  · split at expects
    · exact absurd expects (unexpected _ (expects?_erase rfl))
    · rcases expects?_fanOut _ _ _ expects with before | spread
      · have waiting := @expects?_put base ({ base with compiler := host.locate settings }.suspend id
          (.revalidating base.documents.keys.length base.documents.keys.length)) id _ rfl
        exact absurd before (unexpected _ waiting)
      · exact spread

theorem unasked_reconfigured (host : Host) (base : Session) (id : OperationId) (settings : Settings)
    (asker : OperationId) (scope : Option Uri) :
    .fetch asker scope ∉ (base.reconfigured host id settings).2 := by
  unfold reconfigured
  dsimp only
  split
  · simp
  · split
    · simp
    · exact unasked_of_idle (idle_fanOut _ _ _) asker scope

/-! ### What a moment does to those who expect settings -/

namespace Moment

/-- An operation begins, at a request or since a document has been at rest. -/
def Commences (moment : Moment) : Prop :=
  ∃ host, (∃ request, moment.impulse = .input host (.start request)) ∨
    ∃ uri ticket, moment.impulse = .input host (.rested uri ticket) ∧
      moment.session.timers.pending.get? uri = some ticket

/-- No operation is under way when another begins. -/
def Calm (moment : Moment) : Prop :=
  moment.Commences → ∀ id, moment.session.operations.get? id = none

/-- Validations that were made ready, one for each open document, are all that expects settings. -/
def FannedOut (moment : Moment) : Prop :=
  ∃ change first, ∀ id stage, moment.after.expects? id = some stage → ∃ place uri,
    id = first + place ∧ moment.session.documents.keys[place]? = some uri ∧
      stage = .ready uri (.change change)

/-- Nobody asks for the settings of a document. -/
def Unasked (moment : Moment) : Prop :=
  ∀ id uri, ¬ moment.Requests id uri

/-- No settings of a document arrive. -/
def Unanswered (moment : Moment) : Prop :=
  ∀ id uri settings, ¬ moment.Answers id uri settings

/-- An operation asks for the settings of a document, which are not known. It is new and the only one
that needs any, or it was ready to begin. -/
structure Seeks (moment : Moment) (id : OperationId) (uri : Uri) : Prop where
  unknown : moment.session.settings.get? uri = none
  source : (∀ other, moment.session.expects? other = none) ∨
    ∃ cause, moment.session.expects? id = some (.ready uri cause)
  fetches : moment.effects = [.fetch id (some uri)]
  unanswered : moment.Unanswered

/-- What a moment does to the operations that expect settings. -/
inductive Dealing (moment : Moment) : Prop
  /-- One asks for the settings of its document. -/
  | asks (id : OperationId) (uri : Uri) (task : Task) (about : task.uri = uri)
      (seeks : moment.Seeks id uri)
      (waits : ∀ other, moment.after.expects? other =
        if other = id then some (.fetching task) else moment.session.expects? other)
  /-- One gets the settings of its document. -/
  | learns (id : OperationId) (uri : Uri) (settings : Settings)
      (answers : moment.Answers id uri settings)
      (goes : ∀ other, moment.after.expects? other =
        if other = id then none else moment.session.expects? other)
      (unasked : moment.Unasked)
  /-- The configuration changes. -/
  | configures (host : Host) (settings : Option Settings)
      (now : moment.impulse = .input host (.start (.configure settings)))
      (reaches : moment.FannedOut ∨ ∃ change general, ∀ other, moment.after.expects? other =
        if other = change then some (.reconfiguring general) else none)
      (unasked : moment.Unasked)
  /-- A change of the configuration goes on. -/
  | spreads (id : OperationId) (general : Settings)
      (waits : moment.session.expects? id = some (.reconfiguring general))
      (reaches : moment.FannedOut) (unasked : moment.Unasked) (unanswered : moment.Unanswered)
  /-- At most one goes on, which has not asked, or is abandoned. -/
  | passes
      (kept : ∀ other, moment.after.expects? other = moment.session.expects? other ∨
        moment.after.expects? other = none ∧
          ((∃ uri cause, moment.session.expects? other = some (.ready uri cause)) ∨
            ∃ host, moment.impulse = .input host (.abandon other)))
      (unasked : moment.Unasked) (unanswered : moment.Unanswered)

end Moment

/-- No two operations need the settings of the same document, and none needs what is known. A change of
the configuration that expects an answer is alone, and nothing is known yet. -/
structure Frugal (session : Session) : Prop where
  distinct : session.documents.keys.Nodup
  unique : ∀ {one other uri}, session.Needs one uri → session.Needs other uri → one = other
  unknown : ∀ {id uri}, session.Needs id uri → session.settings.get? uri = none
  alone : ∀ {id general}, session.expects? id = some (.reconfiguring general) →
    (∀ other, other ≠ id → session.expects? other = none) ∧
      ∀ uri, session.settings.get? uri = none

namespace Moment

/-! ### Every moment does one of these -/

section

variable {session : Session} {host : Host} {input : Input} {id : OperationId}

theorem unanswered_of_input (different : ∀ id answer, input ≠ .settings id answer) :
    (⟨session, .input host input⟩ : Moment).Unanswered := by
  rintro id uri settings ⟨_, answer, task, now, -, -⟩
  exact different id answer (Impulse.input.inj now).2

/-- An operation that begins or has its turn asks for settings, or nobody comes to expect any. -/
theorem dealing_of_step (base : Session) (id : OperationId) (uri : Uri)
    (source : (∀ other, session.expects? other = none) ∨
      ∃ cause, session.expects? id = some (.ready uri cause))
    (operations : base.operations = session.operations)
    (known : base.settings? uri = session.settings? uri)
    (different : ∀ id answer, input ≠ .settings id answer)
    (result : Asks base id uri (session.step host input) ∨ Frees base id (session.step host input)) :
    (⟨session, .input host input⟩ : Moment).Dealing := by
  have unanswered := @unanswered_of_input session host input different
  rcases result with ⟨unknown, ⟨task, about, waits⟩, fetches⟩ | ⟨expects, unasked⟩
  · rw [known] at unknown
    rw [operations] at waits
    have absent : session.settings.get? uri = none := by
      rwa [settings?, if_pos (pulls_of_unknown unknown)] at unknown
    exact .asks id uri task about ⟨absent, source, fetches, unanswered⟩ (expects?_put waits)
  · refine .passes ?_ (fun asker scope => unasked asker (some scope)) unanswered
    intro other
    have freed : (Moment.mk session (.input host input)).after.expects? other =
        if other = id then none else session.expects? other :=
      (expects other).trans (by rw [expects?_of_same operations])
    by_cases same : other = id
    · rw [if_pos same] at freed
      rcases source with none | ⟨cause, ready⟩
      · exact .inl (freed.trans (none other).symm)
      · exact .inr ⟨freed, .inl ⟨uri, cause, same ▸ ready⟩⟩
    · rw [if_neg same] at freed
      exact .inl freed

theorem dealing_of_same (operations : (session.step host input).1.operations = session.operations)
    (unasked : ∀ asker scope, .fetch asker scope ∉ (session.step host input).2)
    (unanswered : (⟨session, .input host input⟩ : Moment).Unanswered) :
    (⟨session, .input host input⟩ : Moment).Dealing := by
  refine .passes ?_ (fun asker scope => unasked asker (some scope)) unanswered
  intro other
  exact .inl (expects?_of_same operations other)

/-- An operation that expects nothing goes on or ends. -/
theorem dealing_of_frees (frees : Frees session id (session.step host input))
    (nothing : session.expects? id = none)
    (unanswered : (⟨session, .input host input⟩ : Moment).Unanswered) :
    (⟨session, .input host input⟩ : Moment).Dealing := by
  obtain ⟨expects, unasked⟩ := frees
  refine .passes (fun other => .inl ?_) (fun asker uri => unasked asker (some uri)) unanswered
  rw [after, react, expects]
  split
  · rename_i same
    rw [same, nothing]
  · rfl

theorem dealing_configure (settings : Option Settings)
    (free : ∀ other, session.expects? other = none) :
    (⟨session, .input host (.start (.configure settings))⟩ : Moment).Dealing := by
  let base := { session.draw.1 with general := settings.getD session.general, settings := ∅ }
  by_cases pulls : session.pulls = true
  · have step : session.step host (.start (.configure settings)) =
        (base.suspend session.nextOperation (.reconfiguring base.general),
          [.fetch session.nextOperation none]) := by
      simp only [Session.step, start, configure, draw, pulls, if_true, base]
    refine .configures host settings rfl (.inr ⟨session.nextOperation, base.general, ?_⟩) ?_
    · intro other
      have unexpected : base.expects? other = none := free other
      rw [after, react, step, expects?_put rfl, unexpected]
      rfl
    · intro asker uri asked
      rw [Requests, effects, react, step] at asked
      simp at asked
  · have step : session.step host (.start (.configure settings)) =
        base.reconfigured host session.nextOperation base.general := by
      simp only [Session.step, start, configure, draw, pulls, Bool.false_eq_true, if_false, base]
    refine .configures host settings rfl (.inl ⟨session.nextOperation, base.nextOperation, ?_⟩) ?_
    · intro id stage expects
      rw [after, react, step] at expects
      exact expects?_reconfigured host base _ _ (fun other _ => free other) expects
    · intro asker uri asked
      rw [Requests, effects, react, step] at asked
      exact unasked_reconfigured host base _ _ asker (some uri) asked

theorem dealing_start (request : Request) (free : ∀ other, session.expects? other = none) :
    (⟨session, .input host (.start request)⟩ : Moment).Dealing := by
  have different : ∀ id answer, Input.start request ≠ .settings id answer := by simp
  have unanswered := @unanswered_of_input session host _ different
  cases request with
  | «open» uri text version =>
    by_cases validated : session.validated.contains uri = true
    · refine dealing_of_same ?_ ?_ unanswered
      · simp only [step, start, opened, draw, validated, if_true]
      · simp only [step, start, opened, draw, validated, if_true]
        simp
    · have begins : session.step host (.start (.open uri text version)) =
          (session.prepared (.start (.open uri text version))).validate host session.nextOperation
            uri .asked := by
        simp only [step, start, opened, draw, validated, Bool.false_eq_true, if_false]
        rfl
      refine dealing_of_step (session.prepared (.start (.open uri text version)))
        session.nextOperation uri (.inl free) rfl rfl different ?_
      rw [begins]
      exact asks_or_frees_validate ..
  | change uri text version =>
    refine dealing_of_same ?_ ?_ unanswered
    · simp only [step, start, changed, draw]
      split <;> rfl
    · simp only [step, start, changed, draw]
      split <;> simp
  | close uri => exact dealing_of_same rfl (by simp [step, start]) unanswered
  | shutdown => exact dealing_of_same rfl (by simp [step, start]) unanswered
  | validate uri =>
    exact dealing_of_step session.draw.1 session.nextOperation uri (.inl free) rfl rfl different
      (asks_or_frees_validate host session.draw.1 session.nextOperation uri .asked)
  | configure settings => exact dealing_configure settings free
  | ask uri question =>
    rcases asks_or_frees_ask host session.draw.1 session.nextOperation uri question with
      ⟨scope, asks⟩ | frees
    · exact dealing_of_step session.draw.1 session.nextOperation scope (.inl free) rfl rfl different (.inl asks)
    · exact dealing_of_step session.draw.1 session.nextOperation uri (.inl free) rfl rfl different (.inr frees)

theorem dealing_settings (frugal : session.Frugal) (answer : Option Json) :
    (⟨session, .input host (.settings id answer)⟩ : Moment).Dealing := by
  have unheard : session.step host (.settings id answer) = (session, []) →
      (∀ task, session.operations.get? id ≠ some (.fetching task)) →
      (⟨session, .input host (.settings id answer)⟩ : Moment).Dealing := by
    intro same apart
    refine dealing_of_same (by rw [same]) (by simp [same]) ?_
    rintro other uri settings ⟨_, _, task, now, waits, -⟩
    cases now
    exact apart task waits
  cases waits : session.operations.get? id with
  | none => exact unheard (by simp [step, waits]) (by simp [waits])
  | some stage =>
    cases stage with
    | fetching task =>
      have goes : session.step host (.settings id answer) = session.informed host id task answer := by
        simp only [step, waits]
      obtain ⟨expects, unasked⟩ := frees_informed host session id task answer
      rw [← goes] at expects unasked
      exact .learns id task.uri _ ⟨host, answer, task, rfl, waits, rfl, rfl⟩ expects
        (fun asker uri => unasked asker (some uri))
    | reconfiguring general =>
      have goes : session.step host (.settings id answer) =
          session.reconfigured host id (layered general answer) := by
        simp only [step, waits]
      have expecting : session.expects? id = some (.reconfiguring general) :=
        expects?_of_operation waits
      refine .spreads id general expecting ⟨id, session.nextOperation, ?_⟩ ?_ ?_
      · intro other stage expects
        rw [after, react, goes] at expects
        exact expects?_reconfigured host session id _ (frugal.alone expecting).1 expects
      · intro asker uri asked
        rw [Requests, effects, react, goes] at asked
        exact unasked_reconfigured host session id _ asker (some uri) asked
      · rintro other uri settings ⟨_, _, task, now, fetching, -⟩
        cases now
        rw [waits] at fetching
        cases fetching
    | _ => exact unheard (by simp [step, waits]) (by simp [waits])

theorem dealing_ended (ending : Compiler.Ending) :
    (⟨session, .input host (.ended id ending)⟩ : Moment).Dealing := by
  have unanswered := @unanswered_of_input session host (.ended id ending) (by simp)
  have unheard : session.step host (.ended id ending) = (session, []) →
      (⟨session, .input host (.ended id ending)⟩ : Moment).Dealing := by
    intro same
    exact dealing_of_same (by rw [same]) (by simp [same]) unanswered
  cases waits : session.operations.get? id with
  | none => exact unheard (by simp [step, waits])
  | some stage =>
    cases stage with
    | checking check =>
      refine dealing_of_frees ?_ (expects?_of_operation waits) unanswered
      simp only [step, waits]
      exact frees_checked ..
    | asking inquiry executable scratch =>
      refine dealing_of_frees ?_ (expects?_of_operation waits) unanswered
      simp only [step, waits]
      exact frees_answered ..
    | _ => exact unheard (by simp [step, waits])

theorem dealing_turn : (⟨session, .input host (.turn id)⟩ : Moment).Dealing := by
  have different : ∀ other answer, Input.turn id ≠ .settings other answer := by simp
  have unanswered := @unanswered_of_input session host _ different
  have unheard : session.step host (.turn id) = (session, []) →
      (⟨session, .input host (.turn id)⟩ : Moment).Dealing := by
    intro same
    exact dealing_of_same (by rw [same]) (by simp [same]) unanswered
  cases waits : session.operations.get? id with
  | none => exact unheard (by simp [step, waits])
  | some stage =>
    cases stage with
    | ready uri cause =>
      refine dealing_of_step session id uri (.inr ⟨cause, expects?_of_operation waits⟩) rfl rfl
        different ?_
      simp only [step, waits]
      exact asks_or_frees_validate ..
    | revalidating waiting count =>
      cases waiting with
      | zero =>
        refine dealing_of_frees ?_ (expects?_of_operation waits) unanswered
        simp only [step, waits]
        exact ⟨expects?_erase rfl, by simp⟩
      | succ waiting => exact unheard (by simp [step, waits])
    | _ => exact unheard (by simp [step, waits])

theorem dealing_abandon : (⟨session, .input host (.abandon id)⟩ : Moment).Dealing := by
  have gone : (session.step host (.abandon id)).1.operations = session.operations.erase id := by
    simp only [step]
    split <;> rfl
  refine .passes ?_ (by simp [Unasked, Requests, effects, react, step])
    (unanswered_of_input (by simp))
  intro other
  have erased : (Moment.mk session (.input host (.abandon id))).after.expects? other = _ :=
    expects?_erase gone other
  by_cases same : other = id
  · rw [if_pos same] at erased
    exact .inr ⟨erased, .inr ⟨host, by rw [same]⟩⟩
  · rw [if_neg same] at erased
    exact .inl erased

end

theorem dealing (moment : Moment) (frugal : moment.session.Frugal) (calm : moment.Calm) :
    moment.Dealing := by
  obtain ⟨session, impulse⟩ := moment
  have free : Commences ⟨session, impulse⟩ → ∀ other, session.expects? other = none := by
    intro commences other
    rw [expects?, calm commences other]
    rfl
  have unheard : (Moment.mk session impulse).after.operations = session.operations →
      (Moment.mk session impulse).effects = [] → (Moment.mk session impulse).Unanswered →
      (Moment.mk session impulse).Dealing := by
    intro same silent unanswered
    refine .passes (fun other => .inl (expects?_of_same same other)) ?_ unanswered
    simp [Unasked, Requests, silent]
  cases impulse with
  | support pulls => exact unheard rfl rfl (by simp [Unanswered, Answers])
  | general settings => exact unheard rfl rfl (by simp [Unanswered, Answers])
  | input host input =>
    cases input with
    | start request => exact dealing_start request (free ⟨host, .inl ⟨request, rfl⟩⟩)
    | settings id answer => exact dealing_settings frugal answer
    | ended id ending => exact dealing_ended ending
    | rested uri ticket =>
      have different : ∀ id answer, Input.rested uri ticket ≠ .settings id answer := by simp
      by_cases pending : session.timers.pending.get? uri = some ticket
      · have begins : session.step host (.rested uri ticket) =
            (session.prepared (.rested uri ticket)).validate host session.nextOperation uri .rest := by
          simp only [step, Debounce.Register.claim?, pending, if_true]
          rfl
        refine dealing_of_step (session.prepared (.rested uri ticket)) session.nextOperation uri
          (.inl (free ⟨host, .inr ⟨uri, ticket, rfl, pending⟩⟩)) rfl rfl different ?_
        rw [begins]
        exact asks_or_frees_validate ..
      · refine unheard ?_ ?_ (unanswered_of_input different) <;>
          simp [after, effects, react, step, Debounce.Register.claim?, pending]
    | turn id => exact dealing_turn
    | abandon id => exact dealing_abandon

end Moment

end LanguageServer.Session
