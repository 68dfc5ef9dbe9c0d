import LanguageServer.Proofs.Session.Upshot

/-! What a moment does to the operations under way, and whom it asks for something. Each operation is
moved by its own inputs alone, except that a change of the configuration waits for one validation less
when one of those that it started has ended. -/

namespace LanguageServer.Session

def Standing.cause : Standing → Cause
  | .preparing _ cause => cause
  | .checking check => check.cause

/-! ### Effects that ask for nothing -/

/-- An effect that asks the editor or the compiler for something. -/
def Effect.Asks : Effect → Prop
  | .fetch _ _ => True
  | .call _ _ _ _ => True
  | _ => False

/-- Nobody is asked for anything. -/
def Idle (effects : List Effect) : Prop :=
  ∀ effect ∈ effects, ¬ effect.Asks

@[simp]
theorem idle_nil : Idle [] := by
  simp [Idle]

@[simp]
theorem idle_cons {effect : Effect} {rest : List Effect} :
    Idle (effect :: rest) ↔ ¬ effect.Asks ∧ Idle rest := by
  simp [Idle]

@[simp]
theorem idle_append {first second : List Effect} :
    Idle (first ++ second) ↔ Idle first ∧ Idle second := by
  simp only [Idle, List.mem_append]
  constructor
  · intro idle
    exact ⟨fun effect member => idle effect (.inl member),
      fun effect member => idle effect (.inr member)⟩
  · rintro ⟨one, other⟩ effect (member | member)
    · exact one effect member
    · exact other effect member

theorem idle_resolve (host : Host) (session : Session) (settings : Settings) :
    Idle (session.resolve host settings).2.2 := by
  unfold resolve
  dsimp only
  split <;> simp [Effect.Asks]

theorem idle_alarm (session : Session) (detail : String) : Idle (session.alarm detail).2 := by
  unfold alarm
  split <;> simp [Effect.Asks]

theorem idle_release (session : Session) (id : OperationId) : Idle (session.release id).2 := by
  unfold release
  split
  · dsimp only
    split <;> simp [Effect.Asks]
  · simp

theorem idle_conclude (session : Session) (id : OperationId) (cause : Cause) (outcome : Outcome) :
    Idle (session.conclude id cause outcome).2 := by
  cases cause with
  | change change => exact idle_cons.mpr ⟨not_false, idle_release (session.finish id) change⟩
  | asked => simp [conclude, Effect.Asks]
  | rest => simp [conclude, Effect.Asks]

theorem idle_reply (session : Session) (id : OperationId) (reply : Option Reply) :
    Idle (session.reply id reply).2 := by
  simp [Session.reply, Effect.Asks]

theorem idle_fanOut (session : Session) (change : OperationId) (uris : List Uri) :
    Idle (session.fanOut change uris).2 := by
  induction uris generalizing session with
  | nil => exact idle_nil
  | cons uri rest ih =>
    unfold fanOut
    exact idle_cons.mpr ⟨not_false, ih _⟩

/-! ### The table of operations after the parts of an operation -/

/-- A stage after one of the validations that it waits for has ended. -/
def Stage.released : Stage → Stage
  | .revalidating waiting count => .revalidating (waiting - 1) count
  | stage => stage

/-- The operations after a validation has ended: the change of the configuration that started it, if
there is one, waits for one validation less. -/
def Cause.settle (operations : Table OperationId Stage) : Cause → Table OperationId Stage
  | .change id =>
    match operations.get? id with
    | some (.revalidating waiting count) => operations.put id (.revalidating (waiting - 1) count)
    | _ => operations
  | _ => operations

theorem get?_settle (operations : Table OperationId Stage) (cause : Cause) (id : OperationId) :
    (cause.settle operations).get? id =
      if cause = .change id then (operations.get? id).map Stage.released else operations.get? id := by
  cases cause with
  | asked => simp [Cause.settle]
  | rest => simp [Cause.settle]
  | change change =>
    simp only [Cause.settle, Cause.change.injEq]
    by_cases same : change = id
    · subst same
      rw [if_pos rfl]
      cases waits : operations.get? change with
      | none => exact waits
      | some stage =>
        cases stage with
        | revalidating waiting count => simp [Stage.released]
        | _ => exact waits
    · rw [if_neg same]
      split
      · exact Table.get?_put_of_ne _ _ (Ne.symm same)
      · rfl

@[simp]
theorem operations_resolve (host : Host) (session : Session) (settings : Settings) :
    (session.resolve host settings).1.operations = session.operations := by
  unfold resolve
  dsimp only
  split <;> rfl

@[simp]
theorem operations_alarm (session : Session) (detail : String) :
    (session.alarm detail).1.operations = session.operations := by
  unfold alarm
  split <;> rfl

@[simp]
theorem operations_keep (session : Session) (uri : Uri) (settings : Settings) :
    (session.keep uri settings).operations = session.operations := by
  unfold keep
  split <;> rfl

@[simp]
theorem operations_conclude (session : Session) (id : OperationId) (cause : Cause)
    (outcome : Outcome) :
    (session.conclude id cause outcome).1.operations =
      cause.settle (session.operations.erase id) := by
  cases cause with
  | asked => rfl
  | rest => rfl
  | change change =>
    simp only [conclude, release, finish, Cause.settle]
    cases (session.operations.erase id).get? change with
    | none => rfl
    | some stage => cases stage <;> rfl

theorem operations_prepared (session : Session) (input : Input) :
    (session.prepared input).operations = session.operations := by
  unfold prepared
  split <;> try rfl
  split
  · exact operations_keep ..
  · rfl

/-- A validation that goes on calls the compiler or comes to its end. -/
theorem check_cases (host : Host) (session : Session) (id : OperationId) (uri : Uri) (cause : Cause)
    (settings : Settings) :
    (∃ executable file document, host.locate settings = some executable ∧
        host.scratch id = some file ∧ session.documents.get? uri = some document ∧
        (session.check host id uri cause settings).1.operations =
          session.operations.put id (.checking ⟨uri, cause, session.revision + 1, document.version,
            settings.maxDiagnostics, executable, file⟩) ∧
        (session.check host id uri cause settings).1.scratch.get? file = some document.text ∧
        (session.check host id uri cause settings).2 =
          [.call id executable (Compiler.checkArguments file) document.text]) ∨
      (session.check host id uri cause settings).1.operations =
          cause.settle (session.operations.erase id) ∧
        Idle (session.check host id uri cause settings).2 := by
  have skipped : (host.locate settings = none ∨ session.documents.get? uri = none) →
      (session.check host id uri cause settings).1.operations =
          cause.settle (session.operations.erase id) ∧
        Idle (session.check host id uri cause settings).2 := by
    intro missing
    rw [check_skipped host session id uri cause settings missing]
    refine ⟨?_, idle_append.mpr ⟨idle_resolve _ _ _, idle_conclude _ _ _ _⟩⟩
    rw [operations_conclude, operations_resolve]
  cases found : host.locate settings with
  | none => exact .inr (skipped (.inl found))
  | some executable =>
    cases present : session.documents.get? uri with
    | none => exact .inr (skipped (.inr present))
    | some document =>
      cases made : host.scratch id with
      | none =>
        right
        rw [check_failed host session id uri cause settings executable document found present made]
        refine ⟨?_, idle_conclude _ _ _ _⟩
        rw [operations_conclude]
        rfl
      | some file =>
        left
        rw [check_called host session id uri cause settings executable file document found present
          made]
        exact ⟨executable, file, document, rfl, rfl, rfl, rfl, Table.get?_put_self .., rfl⟩

theorem query_cases (host : Host) (session : Session) (id : OperationId) (inquiry : Inquiry)
    (settings : Settings) :
    (∃ executable file text,
        (session.query host id inquiry settings).1.operations =
          session.operations.put id (.asking inquiry executable file) ∧
        (session.query host id inquiry settings).2 =
          [.call id executable (Compiler.queryArguments file inquiry.line inquiry.column) text]) ∨
      (session.query host id inquiry settings).1.operations = session.operations.erase id ∧
        Idle (session.query host id inquiry settings).2 := by
  cases found : host.locate settings with
  | none =>
    right
    have ends : session.query host id inquiry settings =
        (((session.resolve host settings).1.reply id none).1,
          (session.resolve host settings).2.2 ++
            ((session.resolve host settings).1.reply id none).2) := by
      unfold query
      dsimp only
      rw [resolve_second, found]
    rw [ends]
    refine ⟨?_, idle_append.mpr ⟨idle_resolve _ _ _, idle_reply _ _ _⟩⟩
    exact congrArg (Table.erase · id) (operations_resolve host session settings)
  | some executable =>
    unfold query
    rw [resolve_found host session settings executable found]
    dsimp only
    split
    · rename_i called document file same _ _
      exact .inl ⟨called, file, document.text, rfl, rfl⟩
    · exact .inr ⟨rfl, idle_append.mpr ⟨idle_nil, idle_reply _ _ _⟩⟩

theorem checked_cases (session : Session) (id : OperationId) (check : Check)
    (ending : Compiler.Ending) :
    (session.checked id check ending).1.operations =
        check.cause.settle (session.operations.erase id) ∧
      Idle (session.checked id check ending).2 := by
  unfold checked
  dsimp only
  split
  · rw [operations_conclude, operations_alarm]
    exact ⟨rfl, idle_append.mpr ⟨idle_alarm _ _, idle_conclude _ _ _ _⟩⟩
  · split
    · rw [operations_conclude]
      exact ⟨rfl, idle_cons.mpr ⟨not_false, idle_conclude _ _ _ _⟩⟩
    · rw [operations_conclude]
      exact ⟨rfl, idle_conclude _ _ _ _⟩

theorem answered_cases (session : Session) (id : OperationId) (inquiry : Inquiry)
    (executable scratch : Path) (ending : Compiler.Ending) :
    (session.answered id inquiry executable scratch ending).1.operations =
        session.operations.erase id ∧
      Idle (session.answered id inquiry executable scratch ending).2 := by
  unfold answered
  dsimp only
  split
  · exact ⟨rfl, idle_reply _ _ _⟩
  · split
    · refine ⟨?_, idle_append.mpr ⟨idle_alarm _ _, idle_reply _ _ _⟩⟩
      exact congrArg (Table.erase · id) (operations_alarm (session.discard scratch) _)
    · exact ⟨rfl, idle_append.mpr ⟨idle_nil, idle_reply _ _ _⟩⟩

/-! ### Where validations stand after a change of the table -/

section Standings

variable {session result : Session} {id : OperationId}

theorem standing?_put {stage : Stage}
    (entered : result.operations = session.operations.put id stage) (other : OperationId) :
    result.standing? other = if other = id then stage.standing? else session.standing? other := by
  rw [standing?, entered, Table.get?_put]
  split <;> rfl

theorem standing?_erase (gone : result.operations = session.operations.erase id)
    (other : OperationId) :
    result.standing? other = if other = id then none else session.standing? other := by
  rw [standing?, gone, Table.get?_erase]
  split <;> rfl

theorem Stage.standing?_released (stage : Stage) : stage.released.standing? = stage.standing? := by
  cases stage <;> rfl

theorem standing?_settle {cause : Cause}
    (ends : result.operations = cause.settle (session.operations.erase id)) (other : OperationId) :
    result.standing? other = if other = id then none else session.standing? other := by
  have settled : result.standing? other =
      ((session.operations.erase id).get? other).bind Stage.standing? := by
    rw [standing?, ends, get?_settle]
    split
    · cases (session.operations.erase id).get? other with
      | none => rfl
      | some stage => exact Stage.standing?_released stage
    · rfl
  rw [settled, Table.get?_erase]
  split <;> rfl

end Standings

/-! ### What a moment does -/

def Stage.Inquires : Stage → Prop
  | .fetching (.inquire _) => True
  | .asking _ _ _ => True
  | _ => False

theorem Stage.Inquires.standing {stage : Stage} (inquires : stage.Inquires) :
    stage.standing? = none := by
  cases stage with
  | fetching task =>
    cases task with
    | validate uri cause => cases inquires
    | inquire inquiry => rfl
  | asking inquiry executable scratch => rfl
  | ready uri cause => cases inquires
  | checking check => cases inquires
  | reconfiguring general => rfl
  | revalidating waiting count => rfl

theorem pulls_of_unknown {session : Session} {uri : Uri} (unknown : session.settings? uri = none) :
    session.pulls = true := by
  unfold settings? at unknown
  split at unknown
  · assumption
  · cases unknown

namespace Moment

/-- A validation may begin, since it is new, or it waits to go on. -/
def Entitled (moment : Moment) (id : OperationId) (uri : Uri) (cause : Cause) : Prop :=
  (id = moment.session.nextOperation ∧ (cause = .asked ∨ cause = .rest)) ∨
    moment.session.standing? id = some (.preparing uri cause)

/-- A validation can end: it is new, or under way. -/
def Endable (moment : Moment) (id : OperationId) (cause : Cause) : Prop :=
  (id = moment.session.nextOperation ∧ (cause = .asked ∨ cause = .rest)) ∨
    ∃ standing, moment.session.standing? id = some standing ∧ standing.cause = cause

theorem Entitled.endable {moment : Moment} {id : OperationId} {uri : Uri} {cause : Cause}
    (entitled : moment.Entitled id uri cause) : moment.Endable id cause := by
  rcases entitled with new | waits
  · exact .inl new
  · exact .inr ⟨_, waits, rfl⟩

theorem turn_entitled {moment : Moment} {turn : Turn} (has : moment.turn? = some turn) :
    moment.Entitled turn.id turn.uri turn.cause := by
  rcases moment.turn_standing has with ⟨new, -, cause⟩ | waits
  · exact .inl ⟨new, cause⟩
  · exact .inr waits

/-- A validation that has its turn waits for the compiler then, or comes to its end. -/
theorem turn_operations {moment : Moment} {turn : Turn} (has : moment.turn? = some turn) :
    (∃ check, moment.after.operations = moment.session.operations.put turn.id (.checking check) ∧
        check.cause = turn.cause) ∨
      moment.after.operations = turn.cause.settle (moment.session.operations.erase turn.id) := by
  obtain ⟨session, impulse⟩ := moment
  cases impulse with
  | support pulls => cases has
  | general settings => cases has
  | input host input =>
    obtain ⟨id, uri, cause, settings, rfl, same⟩ := step_of_turn has
    rcases check_cases host (session.prepared input) id uri cause settings with
      ⟨executable, file, document, -, -, -, waits, -⟩ | ⟨ends, -⟩
    · rw [operations_prepared, ← same] at waits
      exact .inl ⟨_, waits, rfl⟩
    · rw [operations_prepared, ← same] at ends
      exact .inr ends

/-- An operation that can begin or go on in a moment and is no validation: it is new, a question, or a
change of the configuration to which the editor has just answered. -/
def Apart (moment : Moment) (id : OperationId) : Prop :=
  id = moment.session.nextOperation ∨
    (∃ stage, moment.session.operations.get? id = some stage ∧ stage.Inquires) ∨
    ∃ host answer general, moment.impulse = .input host (.settings id answer) ∧
      moment.session.operations.get? id = some (.reconfiguring general)

theorem Apart.standing {moment : Moment} (numbered : moment.session.Numbered) {id : OperationId}
    (apart : moment.Apart id) : moment.session.standing? id = none := by
  rcases apart with rfl | ⟨stage, waits, inquires⟩ | ⟨-, -, general, -, waits⟩
  · exact numbered.standing (Nat.le_refl _)
  · rw [standing?, waits]
    exact inquires.standing
  · rw [standing?, waits]
    rfl

/-- What a moment does to the operations under way, and what it asks for. -/
inductive Deed (moment : Moment) : Prop
  | rests (same : moment.after.operations = moment.session.operations)
      (idle : Idle moment.effects)
  /-- A validation asks for the settings of its document. -/
  | prepares (id : OperationId) (uri : Uri) (cause : Cause) (entitled : moment.Entitled id uri cause)
      (pulled : moment.session.pulls = true)
      (waits : moment.after.operations =
        moment.session.operations.put id (.fetching (.validate uri cause)))
      (fetches : moment.effects = [.fetch id (some uri)])
  /-- A validation calls the compiler. -/
  | checks (turn : Turn) (executable file : Path) (document : Document)
      (has : moment.turn? = some turn) (entitled : moment.Entitled turn.id turn.uri turn.cause)
      (waits : moment.after.operations = moment.session.operations.put turn.id
        (.checking (turn.check (moment.session.revision + 1) document executable file)))
      (stored : moment.after.scratch.get? file = some document.text)
      (calls : moment.effects =
        [.call turn.id executable (Compiler.checkArguments file) document.text])
  /-- A validation comes to its end. -/
  | concludes (id : OperationId) (cause : Cause) (endable : moment.Endable id cause)
      (ends : moment.after.operations = cause.settle (moment.session.operations.erase id))
      (idle : Idle moment.effects)
  /-- A question asks for the settings of its document. -/
  | wonders (id : OperationId) (inquiry : Inquiry) (apart : moment.Apart id)
      (pulled : moment.session.pulls = true)
      (waits : moment.after.operations =
        moment.session.operations.put id (.fetching (.inquire inquiry)))
      (fetches : moment.effects = [.fetch id (some inquiry.uri)])
  /-- A question calls the compiler. -/
  | asks (id : OperationId) (inquiry : Inquiry) (executable file : Path) (text : String)
      (apart : moment.Apart id)
      (waits : moment.after.operations =
        moment.session.operations.put id (.asking inquiry executable file))
      (calls : moment.effects =
        [.call id executable (Compiler.queryArguments file inquiry.line inquiry.column) text])
  /-- A change of the configuration asks for the general settings. -/
  | pulls (general : Settings) (pulled : moment.session.pulls = true)
      (number : moment.after.nextOperation = moment.session.nextOperation + 1)
      (waits : moment.after.operations = moment.session.operations.put moment.session.nextOperation
        (.reconfiguring general))
      (fetches : moment.effects = [.fetch moment.session.nextOperation none])
  /-- A question comes to its end, or a change of the configuration for which nothing is to do. -/
  | ends (id : OperationId) (apart : moment.Apart id)
      (gone : moment.after.operations = moment.session.operations.erase id)
      (idle : Idle moment.effects)
  /-- A change of the configuration makes a validation of each open document ready. -/
  | fansOut (id : OperationId) (base : Session) (uris : List Uri) (apart : moment.Apart id)
      (drawn : id < base.nextOperation) (number : moment.session.nextOperation ≤ base.nextOperation)
      (every : uris = moment.session.documents.keys)
      (waits : base.operations =
        moment.session.operations.put id (.revalidating uris.length uris.length))
      (result : moment.after = (base.fanOut id uris).1)
      (queues : moment.effects = (base.fanOut id uris).2)
  /-- A change of the configuration has no validation left to wait for. -/
  | returns (id : OperationId) (count : Nat)
      (waits : moment.session.operations.get? id = some (.revalidating 0 count))
      (gone : moment.after.operations = moment.session.operations.erase id)
      (done : moment.effects = [.done id (.count count)])
  | leaves (host : Host) (id : OperationId) (now : moment.impulse = .input host (.abandon id))
      (gone : moment.after.operations = moment.session.operations.erase id)
      (idle : Idle moment.effects)

/-! ### Every moment does one of these -/

variable {moment : Moment} (base : Session) (id : OperationId)

theorem deed_of_check (host : Host) (uri : Uri) (cause : Cause) (settings : Settings)
    (operations : base.operations = moment.session.operations)
    (revision : base.revision = moment.session.revision)
    (has : moment.turn? = some (.ofSettings host id uri cause settings))
    (entitled : moment.Entitled id uri cause)
    (result : moment.after = (base.check host id uri cause settings).1)
    (effects : moment.effects = (base.check host id uri cause settings).2) : moment.Deed := by
  rcases check_cases host base id uri cause settings with
    ⟨executable, file, document, -, -, -, waits, stored, calls⟩ | ⟨ends, idle⟩
  · rw [← result, operations, revision] at waits
    exact .checks _ executable file document has entitled waits (result ▸ stored)
      (effects.trans calls)
  · rw [← result, operations] at ends
    exact .concludes id cause entitled.endable ends (effects ▸ idle)

theorem deed_of_validate (host : Host) (uri : Uri) (cause : Cause)
    (operations : base.operations = moment.session.operations)
    (revision : base.revision = moment.session.revision)
    (pulls : base.pulls = moment.session.pulls)
    (has : moment.turn? = base.beginning? host id uri cause)
    (entitled : moment.Entitled id uri cause)
    (result : moment.after = (base.validate host id uri cause).1)
    (effects : moment.effects = (base.validate host id uri cause).2) : moment.Deed := by
  cases begun : base.beginning? host id uri cause with
  | none =>
    rw [validate_of_not_beginning begun] at result effects
    have pulled := pulls_of_unknown (Option.map_eq_none_iff.mp begun)
    refine .prepares id uri cause entitled (pulls ▸ pulled) ?_ effects
    rw [result, ← operations]
    rfl
  | some turn =>
    obtain ⟨settings, rfl, same⟩ := validate_of_beginning base begun
    rw [same] at result effects
    exact deed_of_check base id host uri cause settings operations revision (has.trans begun) entitled
      result effects

theorem deed_of_query (host : Host) (inquiry : Inquiry) (settings : Settings)
    (operations : base.operations = moment.session.operations) (apart : moment.Apart id)
    (result : moment.after = (base.query host id inquiry settings).1)
    (effects : moment.effects = (base.query host id inquiry settings).2) : moment.Deed := by
  rcases query_cases host base id inquiry settings with
    ⟨executable, file, text, waits, calls⟩ | ⟨gone, idle⟩
  · rw [← result, operations] at waits
    exact .asks id inquiry executable file text apart waits (effects.trans calls)
  · rw [← result, operations] at gone
    exact .ends id apart gone (effects ▸ idle)

theorem deed_of_reconfigured (host : Host) (settings : Settings)
    (operations : base.operations = moment.session.operations)
    (documents : base.documents = moment.session.documents)
    (drawn : id < base.nextOperation) (number : moment.session.nextOperation ≤ base.nextOperation)
    (apart : moment.Apart id)
    (result : moment.after = (base.reconfigured host id settings).1)
    (effects : moment.effects = (base.reconfigured host id settings).2) : moment.Deed := by
  unfold reconfigured at result effects
  dsimp only at result effects
  have ends : moment.after.operations = base.operations.erase id →
      moment.effects = [.done id (.count 0)] → moment.Deed := by
    intro gone done
    refine .ends id apart (gone.trans (operations ▸ rfl)) ?_
    simp [done, Effect.Asks]
  split at result
  · rename_i same
    rw [if_pos same] at effects
    exact ends (result ▸ rfl) effects
  · rename_i differs
    rw [if_neg differs] at effects
    split at result
    · rename_i none
      rw [if_pos none] at effects
      exact ends (result ▸ rfl) effects
    · rename_i some
      rw [if_neg some] at effects
      refine .fansOut id _ base.documents.keys apart ?_ ?_ (documents ▸ rfl) ?_ result effects
      · exact drawn
      · exact number
      · rw [← operations]
        rfl

theorem deed_start (session : Session) (host : Host)
    (request : Request) : (⟨session, .input host (.start request)⟩ : Moment).Deed := by
  have apart : (⟨session, .input host (.start request)⟩ : Moment).Apart session.nextOperation :=
    .inl rfl
  cases request with
  | «open» uri text version =>
    by_cases known : session.validated.contains uri = true
    · refine .rests ?_ ?_ <;>
        simp only [after, effects, react, step, start, opened, draw, known, if_true]
      simp [Effect.Asks]
    · refine deed_of_validate (session.prepared (.start (.open uri text version)))
        session.nextOperation host uri .asked rfl rfl rfl ?_ (.inl ⟨rfl, .inl rfl⟩) ?_ ?_
      · simp only [turn?, Session.turn?, known, Bool.false_eq_true, if_false]
        rfl
      · simp only [after, react, step, start, opened, draw, known, Bool.false_eq_true, if_false]
        rfl
      · simp only [effects, react, step, start, opened, draw, known, Bool.false_eq_true, if_false]
        rfl
  | change uri text version =>
    refine .rests ?_ ?_ <;> simp only [after, effects, react, step, start, changed, draw] <;>
      cases session.documents.get? uri <;> simp [Effect.Asks]
  | close uri => exact .rests rfl (by simp [effects, react, step, start, Effect.Asks])
  | shutdown => exact .rests rfl (by simp [effects, react, step, start, Effect.Asks])
  | validate uri =>
    exact deed_of_validate session.draw.1 session.nextOperation host uri .asked rfl rfl rfl rfl
      (.inl ⟨rfl, .inl rfl⟩) rfl rfl
  | configure settings =>
    by_cases pulls : session.pulls = true
    · refine .pulls (settings.getD session.general) pulls ?_ ?_ ?_ <;>
        simp only [after, effects, react, step, start, configure, draw, pulls, if_true] <;> rfl
    · refine deed_of_reconfigured { session.draw.1 with
        general := settings.getD session.general, settings := ∅ } session.nextOperation host
        (settings.getD session.general) rfl rfl (Nat.lt_succ_self _) (Nat.le_succ _) apart ?_ ?_
      · simp only [after, react, step, start, configure, draw, pulls, Bool.false_eq_true, if_false]
      · simp only [effects, react, step, start, configure, draw, pulls, Bool.false_eq_true, if_false]
  | ask uri question =>
    cases asked : session.draw.1.inquiry? uri question with
    | none =>
      refine .ends session.nextOperation apart ?_ ?_ <;>
        simp only [after, effects, react, step, start, ask, asked]
      · rfl
      · exact idle_reply _ _ _
    | some inquiry =>
      cases known : session.draw.1.settings? inquiry.uri with
      | none =>
        refine .wonders session.nextOperation inquiry apart (pulls_of_unknown known) ?_ ?_ <;>
          simp only [after, effects, react, step, start, ask, asked, inquire, known] <;> rfl
      | some settings =>
        refine deed_of_query session.draw.1 session.nextOperation host inquiry settings rfl apart
          ?_ ?_ <;>
          simp only [after, effects, react, step, start, ask, asked, inquire, known] <;> rfl

theorem deed_settings (session : Session) (numbered : session.Numbered) (host : Host)
    (id : OperationId) (answer : Option Json) :
    (⟨session, .input host (.settings id answer)⟩ : Moment).Deed := by
  cases waits : session.operations.get? id with
  | none => exact .rests (by simp [after, react, step, waits]) (by simp [effects, react, step, waits])
  | some stage =>
    cases stage with
    | fetching task =>
      have keeps := operations_keep session task.uri (layered session.general answer)
      cases task with
      | validate uri cause =>
        refine deed_of_check (session.keep uri (layered session.general answer)) id host uri cause
          (layered session.general answer) keeps ?_ ?_ (.inr ?_) ?_ ?_
        · unfold keep
          split <;> rfl
        · simp only [turn?, Session.turn?, waits]
        · simp [standing?, waits, Stage.standing?]
        · simp only [after, react, step, waits, informed, Task.uri]
        · simp only [effects, react, step, waits, informed, Task.uri]
      | inquire inquiry =>
        refine deed_of_query (session.keep inquiry.uri (layered session.general answer)) id host
          inquiry (layered session.general answer) keeps ?_ ?_ ?_
        · exact .inr (.inl ⟨_, waits, trivial⟩)
        · simp only [after, react, step, waits, informed, Task.uri]
        · simp only [effects, react, step, waits, informed, Task.uri]
    | reconfiguring general =>
      refine deed_of_reconfigured session id host (layered general answer) rfl rfl
        (numbered.below waits) (Nat.le_refl _) ?_ ?_ ?_
      · exact .inr (.inr ⟨host, answer, general, rfl, waits⟩)
      · simp only [after, react, step, waits]
      · simp only [effects, react, step, waits]
    | _ => exact .rests (by simp [after, react, step, waits]) (by simp [effects, react, step, waits])

theorem deed_ended (session : Session) (host : Host) (id : OperationId) (ending : Compiler.Ending) :
    (⟨session, .input host (.ended id ending)⟩ : Moment).Deed := by
  cases waits : session.operations.get? id with
  | none => exact .rests (by simp [after, react, step, waits]) (by simp [effects, react, step, waits])
  | some stage =>
    cases stage with
    | checking check =>
      obtain ⟨ends, idle⟩ := checked_cases session id check ending
      refine .concludes id check.cause (.inr ⟨_, standing?_eq_checking.mpr waits, rfl⟩) ?_ ?_
      · simpa only [after, react, step, waits] using ends
      · simpa only [effects, react, step, waits] using idle
    | asking inquiry executable scratch =>
      obtain ⟨gone, idle⟩ := answered_cases session id inquiry executable scratch ending
      refine .ends id (.inr (.inl ⟨_, waits, trivial⟩)) ?_ ?_
      · simpa only [after, react, step, waits] using gone
      · simpa only [effects, react, step, waits] using idle
    | _ => exact .rests (by simp [after, react, step, waits]) (by simp [effects, react, step, waits])

theorem deed_rested (session : Session) (host : Host) (uri : Uri) (ticket : Nat) :
    (⟨session, .input host (.rested uri ticket)⟩ : Moment).Deed := by
  by_cases pending : session.timers.pending.get? uri = some ticket
  · refine deed_of_validate (session.prepared (.rested uri ticket)) session.nextOperation host uri
      .rest rfl rfl rfl ?_ (.inl ⟨rfl, .inr rfl⟩) ?_ ?_
    · simp only [turn?, Session.turn?, pending, if_true]
      rfl
    · simp only [after, react, step, Debounce.Register.claim?, pending, if_true]
      rfl
    · simp only [effects, react, step, Debounce.Register.claim?, pending, if_true]
      rfl
  · refine .rests ?_ ?_ <;> simp [after, effects, react, step, Debounce.Register.claim?, pending]

theorem deed_turn (session : Session) (host : Host) (id : OperationId) :
    (⟨session, .input host (.turn id)⟩ : Moment).Deed := by
  cases waits : session.operations.get? id with
  | none => exact .rests (by simp [after, react, step, waits]) (by simp [effects, react, step, waits])
  | some stage =>
    cases stage with
    | ready uri cause =>
      refine deed_of_validate session id host uri cause rfl rfl rfl ?_ (.inr ?_) ?_ ?_
      · simp only [turn?, Session.turn?, waits]
      · simp [standing?, waits, Stage.standing?]
      · simp only [after, react, step, waits]
      · simp only [effects, react, step, waits]
    | revalidating waiting count =>
      cases waiting with
      | zero =>
        refine .returns id count waits ?_ ?_
        · simp only [after, react, step, waits]
          rfl
        · simp only [effects, react, step, waits]
      | succ waiting =>
        exact .rests (by simp [after, react, step, waits]) (by simp [effects, react, step, waits])
    | _ => exact .rests (by simp [after, react, step, waits]) (by simp [effects, react, step, waits])

theorem deed_abandon (session : Session) (host : Host) (id : OperationId) :
    (⟨session, .input host (.abandon id)⟩ : Moment).Deed := by
  refine .leaves host id rfl ?_ idle_nil
  simp only [after, react, step]
  split <;> rfl

/-- What a moment does, whatever it is. -/
theorem deed (moment : Moment) (numbered : moment.session.Numbered) : moment.Deed := by
  obtain ⟨session, impulse⟩ := moment
  cases impulse with
  | support pulls => exact .rests rfl idle_nil
  | general settings => exact .rests rfl idle_nil
  | input host input =>
    cases input with
    | start request => exact deed_start session host request
    | settings id answer => exact deed_settings session numbered host id answer
    | ended id ending => exact deed_ended session host id ending
    | rested uri ticket => exact deed_rested session host uri ticket
    | turn id => exact deed_turn session host id
    | abandon id => exact deed_abandon session host id

/-! ### Where an operation comes to stand -/

/-- How an operation can come to a stage in a moment. -/
inductive Enters (moment : Moment) (id : OperationId) : Stage → Prop
  | ready (uri : Uri) (change : OperationId) (undrawn : moment.session.nextOperation ≤ id) :
      Enters moment id (.ready uri (.change change))
  | fetching (task : Task) (pulled : moment.session.pulls = true)
      (requests : moment.effects = [.fetch id (some task.uri)]) : Enters moment id (.fetching task)
  | checking (turn : Turn) (check : Check) (has : moment.turn? = some turn) (same : turn.id = id) :
      Enters moment id (.checking check)
  | asking (inquiry : Inquiry) (executable scratch : Path) :
      Enters moment id (.asking inquiry executable scratch)
  | reconfiguring (general : Settings) (pulled : moment.session.pulls = true) :
      Enters moment id (.reconfiguring general)
  | revalidating (count : Nat) (apart : moment.Apart id) : Enters moment id (.revalidating count count)
  | released (waiting count : Nat)
      (waits : moment.session.operations.get? id = some (.revalidating waiting count)) :
      Enters moment id (.revalidating (waiting - 1) count)

end Moment

theorem get?_fanOut (session : Session) (change : OperationId) (uris : List Uri) {id : OperationId}
    {stage : Stage} (waits : (session.fanOut change uris).1.operations.get? id = some stage) :
    session.operations.get? id = some stage ∨
      session.nextOperation ≤ id ∧ ∃ uri ∈ uris, stage = .ready uri (.change change) := by
  rcases Nat.lt_or_ge id session.nextOperation with below | above
  · rw [fanOut_below session change uris below] at waits
    exact .inl waits
  · obtain ⟨place, rfl⟩ := Nat.exists_eq_add_of_le above
    rw [fanOut_above] at waits
    cases present : uris[place]? with
    | none =>
      rw [present] at waits
      exact .inl waits
    | some uri =>
      rw [present] at waits
      exact .inr ⟨above, uri, List.mem_of_getElem? present, (Option.some.inj waits).symm⟩

/-- An operation that does not go on in a moment stays where it is, unless it waits for a validation
that has ended, returns or is abandoned. -/
theorem Moment.stage_untouched (moment : Moment) (numbered : moment.session.Numbered)
    {id : OperationId} (drawn : id < moment.session.nextOperation)
    (unendable : ∀ cause, ¬ moment.Endable id cause) (joined : ¬ moment.Apart id) :
    moment.after.operations.get? id = moment.session.operations.get? id ∨
      moment.after.operations.get? id = (moment.session.operations.get? id).map Stage.released ∨
      moment.after.operations.get? id = none ∧
        ((∃ count, moment.session.operations.get? id = some (.revalidating 0 count)) ∨
          ∃ host, moment.impulse = .input host (.abandon id)) := by
  have put : ∀ {other stage}, id ≠ other →
      moment.after.operations = moment.session.operations.put other stage →
      moment.after.operations.get? id = moment.session.operations.get? id := by
    intro other stage different entered
    rw [entered, Table.get?_put_of_ne _ _ different]
  have endable : ∀ {other cause}, moment.Endable other cause → id ≠ other := by
    rintro other cause ends rfl
    exact unendable cause ends
  have apart : ∀ {other}, moment.Apart other → id ≠ other := by
    rintro other separate rfl
    exact joined separate
  cases moment.deed numbered with
  | rests same idle => exact .inl (by rw [same])
  | prepares other uri cause entitled pulled entered fetches =>
    exact .inl (put (endable entitled.endable) entered)
  | checks turn executable file document has entitled entered stored calls =>
    exact .inl (put (endable entitled.endable) entered)
  | concludes other cause ending ends idle =>
    rw [ends, get?_settle, Table.get?_erase_of_ne _ (endable ending)]
    split
    · exact .inr (.inl rfl)
    · exact .inl rfl
  | wonders other inquiry separate pulled entered fetches => exact .inl (put (apart separate) entered)
  | asks other inquiry executable file text separate entered calls =>
    exact .inl (put (apart separate) entered)
  | pulls general pulled number entered fetches => exact .inl (put (Nat.ne_of_lt drawn) entered)
  | ends other separate gone idle =>
    exact .inl (by rw [gone, Table.get?_erase_of_ne _ (apart separate)])
  | fansOut other base uris separate below number every entered result queues =>
    left
    rw [result, fanOut_below base other uris (Nat.lt_of_lt_of_le drawn number), entered,
      Table.get?_put_of_ne _ _ (apart separate)]
  | returns other count waits gone done =>
    by_cases same : id = other
    · subst same
      exact .inr (.inr ⟨gone ▸ Table.get?_erase_self .., .inl ⟨count, waits⟩⟩)
    · exact .inl (by rw [gone, Table.get?_erase_of_ne _ same])
  | leaves host other now gone idle =>
    by_cases same : id = other
    · subst same
      exact .inr (.inr ⟨gone ▸ Table.get?_erase_self .., .inr ⟨host, now⟩⟩)
    · exact .inl (by rw [gone, Table.get?_erase_of_ne _ same])

/-- An operation stands where it stood, or has just come there. -/
theorem Moment.stage_after (moment : Moment) (numbered : moment.session.Numbered) {id : OperationId}
    {stage : Stage} (waits : moment.after.operations.get? id = some stage) :
    moment.session.operations.get? id = some stage ∨ moment.Enters id stage := by
  have put : ∀ {other entered}, (moment.session.operations.put other entered).get? id = some stage →
      (id = other ∧ stage = entered) ∨ moment.session.operations.get? id = some stage := by
    intro other entered found
    rw [Table.get?_put] at found
    split at found
    · rename_i same
      exact .inl ⟨same, (Option.some.inj found).symm⟩
    · exact .inr found
  have erased : ∀ {other}, (moment.session.operations.erase other).get? id = some stage →
      moment.session.operations.get? id = some stage := by
    intro other found
    rw [Table.get?_erase] at found
    split at found
    · cases found
    · exact found
  cases moment.deed numbered with
  | rests same idle => exact .inl (same ▸ waits)
  | prepares other uri cause entitled pulled entered fetches =>
    rw [entered] at waits
    rcases put waits with ⟨rfl, rfl⟩ | before
    · exact .inr (.fetching _ pulled fetches)
    · exact .inl before
  | checks turn executable file document has entitled entered stored calls =>
    rw [entered] at waits
    rcases put waits with ⟨same, rfl⟩ | before
    · exact .inr (.checking turn _ has same.symm)
    · exact .inl before
  | concludes other cause endable ends idle =>
    rw [ends, get?_settle] at waits
    split at waits
    · obtain ⟨left, found, rfl⟩ := Option.map_eq_some_iff.mp waits
      cases left with
      | revalidating waiting count =>
        rw [Table.get?_erase] at found
        split at found
        · cases found
        · exact .inr (.released waiting count found)
      | _ => exact .inl (erased found)
    · exact .inl (erased waits)
  | wonders other inquiry apart pulled entered fetches =>
    rw [entered] at waits
    rcases put waits with ⟨rfl, rfl⟩ | before
    · exact .inr (.fetching _ pulled fetches)
    · exact .inl before
  | asks other inquiry executable file text apart entered calls =>
    rw [entered] at waits
    rcases put waits with ⟨rfl, rfl⟩ | before
    · exact .inr (.asking inquiry executable file)
    · exact .inl before
  | pulls general pulled number entered fetches =>
    rw [entered] at waits
    rcases put waits with ⟨rfl, rfl⟩ | before
    · exact .inr (.reconfiguring general pulled)
    · exact .inl before
  | ends other apart gone idle => exact .inl (erased (gone ▸ waits))
  | fansOut change base uris apart drawn number every entered result queues =>
    rw [result] at waits
    rcases get?_fanOut base change uris waits with before | ⟨above, uri, -, rfl⟩
    · rw [entered] at before
      rcases put before with ⟨rfl, rfl⟩ | earlier
      · exact .inr (.revalidating _ apart)
      · exact .inl earlier
    · exact .inr (.ready uri change (Nat.le_trans number above))
  | returns change count returning gone done => exact .inl (erased (gone ▸ waits))
  | leaves host left now gone idle => exact .inl (erased (gone ▸ waits))

end LanguageServer.Session
