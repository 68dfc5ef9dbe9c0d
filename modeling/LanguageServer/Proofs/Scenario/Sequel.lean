import LanguageServer.Proofs.Scenario.Trial

/-! What follows from a moment of a session that does not ask the editor for settings: the end of a
call, the end of a rest, or the turns of operations. -/

namespace LanguageServer.Scenario

open Session

/-! ### Effects from which little follows -/

/-- Effects from which nothing follows. -/
def Mute (effects : List Effect) : Prop :=
  ∀ surroundings now, effects.flatMap (follows surroundings now) = []

theorem mute_append {first second : List Effect} (one : Mute first) (other : Mute second) :
    Mute (first ++ second) := by
  intro surroundings now
  rw [List.flatMap_append, one, other]
  rfl

theorem mute_resolve (host : Host) (session : Session) (settings : Settings) :
    Mute (session.resolve host settings).2.2 := by
  unfold resolve
  dsimp only
  split <;> exact fun _ _ => rfl

theorem mute_alarm (session : Session) (detail : String) : Mute (session.alarm detail).2 := by
  unfold alarm
  split <;> exact fun _ _ => rfl

theorem mute_reply (session : Session) (id : OperationId) (reply : Option Reply) :
    Mute (session.reply id reply).2 :=
  fun _ _ => rfl

theorem mute_answered (session : Session) (id : OperationId) (inquiry : Inquiry)
    (executable scratch : Path) (ending : Compiler.Ending) :
    Mute (session.answered id inquiry executable scratch ending).2 := by
  unfold answered
  dsimp only
  split
  · exact mute_reply _ _ _
  · split
    · exact mute_append (mute_alarm _ _) (mute_reply _ _ _)
    · exact mute_append (fun _ _ => rfl) (mute_reply _ _ _)

/-- Effects from which at most the turn of an operation follows that is no validation. -/
def Quiet (after : Session) (effects : List Effect) : Prop :=
  Mute effects ∨ ∃ id, after.standing? id = none ∧ id < after.nextOperation ∧
    ∀ surroundings now, effects.flatMap (follows surroundings now) = [(.after 0, .turn id)]

theorem Quiet.append {after : Session} {first second : List Effect} (mute : Mute first)
    (quiet : Quiet after second) : Quiet after (first ++ second) := by
  rcases quiet with silent | ⟨id, other, below, turn⟩
  · exact .inl (mute_append mute silent)
  · refine .inr ⟨id, other, below, ?_⟩
    intro surroundings now
    rw [List.flatMap_append, mute, turn]
    rfl

theorem Quiet.cons {after : Session} {effect : Effect} {rest : List Effect} (mute : Mute [effect])
    (quiet : Quiet after rest) : Quiet after (effect :: rest) :=
  Quiet.append mute quiet

theorem quiet_release (session : Session) (numbered : session.Numbered) (id : OperationId) :
    Quiet (session.release id).1 (session.release id).2 := by
  unfold release
  split
  · rename_i waiting count waits
    dsimp only
    split
    · exact .inr ⟨id, standing?_suspend_self .., numbered.below waits, fun _ _ => rfl⟩
    · exact .inl fun _ _ => rfl
  · exact .inl fun _ _ => rfl

theorem numbered_finish {session : Session} (numbered : session.Numbered) (id : OperationId) :
    (session.finish id).Numbered := by
  intro other undrawn
  rw [finish, Table.get?_erase]
  split
  · rfl
  · exact numbered other undrawn

/-- When a validation ends, the change of the configuration that waits for it may get its turn. -/
theorem quiet_conclude (session : Session) (numbered : session.Numbered) (id : OperationId)
    (cause : Cause) (outcome : Outcome) :
    Quiet (session.conclude id cause outcome).1 (session.conclude id cause outcome).2 := by
  cases cause with
  | change change =>
    exact Quiet.cons (fun _ _ => rfl)
      (quiet_release (session.finish id) (numbered_finish numbered id) change)
  | asked => exact .inl fun _ _ => rfl
  | rest => exact .inl fun _ _ => rfl

theorem quiet_checked (session : Session) (numbered : session.Numbered) (id : OperationId)
    (check : Check) (ending : Compiler.Ending) :
    Quiet (session.checked id check ending).1 (session.checked id check ending).2 := by
  have discarded : (session.discard check.scratch).Numbered := numbered
  unfold checked
  dsimp only
  split
  · refine Quiet.append (mute_alarm _ _) (quiet_conclude _ ?_ id _ _)
    unfold alarm
    split <;> exact discarded
  · split
    · exact Quiet.cons (fun _ _ => rfl) (quiet_conclude _ discarded id _ _)
    · exact quiet_conclude _ discarded id _ _

/-- A question for which the settings are known calls the compiler, or nothing follows from it. -/
theorem query_follows (host : Host) (session : Session) (id : OperationId) (inquiry : Inquiry)
    (settings : Settings) :
    (∃ executable arguments text, (session.query host id inquiry settings).2 =
        [.call id executable arguments text]) ∨
      Mute (session.query host id inquiry settings).2 := by
  rcases query_cases host session id inquiry settings with
    ⟨executable, file, text, -, calls⟩ | ⟨-, idle⟩
  · exact .inl ⟨executable, _, text, calls⟩
  · right
    unfold query at idle ⊢
    dsimp only at idle ⊢
    split at idle
    · simp [Effect.Asks] at idle
    · exact mute_append (mute_resolve _ _ _) (mute_reply _ _ _)

theorem ask_follows (host : Host) (session : Session) (id : OperationId) (uri : Uri)
    (question : Question) (off : session.pulls = false) :
    (∃ executable arguments text, (session.ask host id uri question).2 =
        [.call id executable arguments text]) ∨
      Mute (session.ask host id uri question).2 := by
  unfold ask
  split
  · rename_i inquiry _
    simp only [inquire, settings?, off, Bool.false_eq_true, if_false]
    exact query_follows ..
  · exact .inr (mute_reply _ _ _)

/-! ### What follows from a moment -/

/-- What follows from a moment in which nobody asks the editor. -/
inductive Sequel (moment : Moment) : Prop
  | quiet (quiet : Quiet moment.after moment.effects)
  /-- A check waits for the compiler. -/
  | checks (turn : Turn) (check : Check) (text : String) (begins : moment.Begins turn check text)
      (stands : moment.after.standing? turn.id = some (.checking check))
  /-- A question waits for the compiler. -/
  | asks (id : OperationId) (executable : Path) (arguments : List String) (text : String)
      (host : Host) (uri : Uri) (question : Question)
      (now : moment.impulse = .input host (.start (.ask uri question)))
      (calls : moment.effects = [.call id executable arguments text])
      (other : moment.after.standing? id = none) (drawn : id < moment.after.nextOperation)
  /-- A document waits to be at rest. -/
  | rests (host : Host) (uri : Uri) (text : String) (version : Int) (id : OperationId)
      (now : moment.impulse = .input host (.start (.change uri text version)))
      (present : moment.session.isOpen uri = true)
      (rests : moment.effects = [.rest uri moment.session.timers.nextTicket, .done id .none])
  /-- Validations of all open documents wait for their turns. -/
  | fansOut (id : OperationId) (base : Session) (host : Host) (settings : Option Settings)
      (now : moment.impulse = .input host (.start (.configure settings)))
      (queues : moment.effects = (base.fanOut id moment.session.documents.keys).2)
      (result : moment.after = (base.fanOut id moment.session.documents.keys).1)
      (drawn : moment.session.nextOperation ≤ base.nextOperation)

theorem numbered_resolve (host : Host) {session : Session} (numbered : session.Numbered)
    (settings : Settings) : (session.resolve host settings).1.Numbered := by
  unfold resolve
  dsimp only
  split <;> exact numbered

theorem numbered_prepared {session : Session} (numbered : session.Numbered) (input : Input) :
    (session.prepared input).Numbered := by
  intro id undrawn
  rw [operations_prepared]
  refine numbered id (Nat.le_trans ?_ undrawn)
  unfold prepared
  split
  · exact Nat.le_succ _
  · exact Nat.le_succ _
  · split
    · unfold keep
      split <;> exact Nat.le_refl _
    · exact Nat.le_refl _
  · exact Nat.le_succ _
  · exact Nat.le_refl _

/-- A validation that has its turn calls the compiler, or little follows from it. -/
theorem begins_or_quiet {moment : Moment} {turn : Turn} (numbered : moment.session.Numbered)
    (has : moment.turn? = some turn) :
    (∃ check text, moment.Begins turn check text ∧
        moment.after.standing? turn.id = some (.checking check)) ∨
      moment.after.standing? turn.id = none ∧ Quiet moment.after moment.effects := by
  rcases Moment.begins_or_ends has with begins | ⟨gone, idle⟩
  · exact .inl begins
  · refine .inr ⟨gone, ?_⟩
    obtain ⟨session, impulse⟩ := moment
    cases impulse with
    | support pulls => cases has
    | general settings => cases has
    | input host input =>
      obtain ⟨id, uri, cause, settings, rfl, same⟩ := step_of_turn has
      have base := numbered_prepared numbered input
      have ends : session.step host input =
          (session.prepared input).check host id uri cause settings := same
      rw [Moment.effects, react, ends] at idle
      rw [Moment.after, Moment.effects, react, ends]
      generalize session.prepared input = prepared at base idle ⊢
      have skipped : host.locate settings = none ∨ prepared.documents.get? uri = none →
          Quiet (prepared.check host id uri cause settings).1
            (prepared.check host id uri cause settings).2 := by
        intro missing
        rw [check_skipped host prepared id uri cause settings missing]
        exact Quiet.append (mute_resolve _ _ _)
          (quiet_conclude _ (numbered_resolve host base settings) id cause _)
      cases found : host.locate settings with
      | none => exact skipped (.inl found)
      | some executable =>
        cases present : prepared.documents.get? uri with
        | none => exact skipped (.inr present)
        | some document =>
          cases made : host.scratch id with
          | none =>
            rw [check_failed host prepared id uri cause settings executable document found present
              made]
            refine quiet_conclude _ ?_ id cause _
            exact base
          | some file =>
            rw [check_called host prepared id uri cause settings executable file document found
              present made] at idle
            simp [Effect.Asks] at idle

theorem sequel_of_turn {moment : Moment} {turn : Turn} (numbered : moment.session.Numbered)
    (has : moment.turn? = some turn) : Sequel moment := by
  rcases begins_or_quiet numbered has with ⟨check, text, begins, stands⟩ | ⟨-, quiet⟩
  · exact .checks turn check text begins stands
  · exact .quiet quiet

/-! ### Every moment has a sequel -/

/-- A change of the configuration ends at once, or fans out over all open documents. -/
theorem reconfigured_cases (host : Host) (session : Session) (id : OperationId)
    (settings : Settings) :
    ((session.compiler = host.locate settings ∨ session.documents.keys = []) ∧
        (session.reconfigured host id settings).2 = [.done id (.count 0)]) ∨
      session.compiler ≠ host.locate settings ∧ ∃ base : Session,
        base.nextOperation = session.nextOperation ∧
        session.reconfigured host id settings = base.fanOut id session.documents.keys := by
  unfold reconfigured
  dsimp only
  split
  · rename_i same
    exact .inl ⟨.inl same, rfl⟩
  · rename_i differs
    split
    · rename_i none
      exact .inl ⟨.inr (List.isEmpty_iff.mp none), rfl⟩
    · refine .inr ⟨differs, _, ?_, rfl⟩
      rfl

section

variable {session : Session} (unasking : session.Unasking) (host : Host)

include unasking

theorem sequel_configure (settings : Option Settings) :
    Sequel ⟨session, .input host (.start (.configure settings))⟩ := by
  have reacts := @Moment.react_configured ⟨session, .input host (.start (.configure settings))⟩ _ _
    rfl unasking.pulls
  rcases reconfigured_cases host (Moment.changed ⟨session, _⟩ settings) session.nextOperation
    (settings.getD session.general) with ⟨-, ends⟩ | ⟨-, base, number, spreads⟩
  · refine .quiet (.inl ?_)
    rw [Moment.effects, reacts, ends]
    exact fun _ _ => rfl
  · have spreads := reacts.trans spreads
    refine .fansOut session.nextOperation base host settings rfl (congrArg Prod.snd spreads)
      (congrArg Prod.fst spreads) ?_
    rw [number]
    exact Nat.le_succ _

theorem sequel_ask (uri : Uri) (question : Question) :
    Sequel ⟨session, .input host (.start (.ask uri question))⟩ := by
  have clears := clears_ask host session.draw.1 session.nextOperation uri question
  have effects : (Moment.mk session (.input host (.start (.ask uri question)))).effects =
      (session.draw.1.ask host session.nextOperation uri question).2 := rfl
  rcases ask_follows host session.draw.1 session.nextOperation uri question unasking.pulls with
    ⟨executable, arguments, text, calls⟩ | mute
  · refine .asks session.nextOperation executable arguments text host uri question rfl
      (effects.trans calls) clears.gone ?_
    exact Nat.lt_of_lt_of_eq (Nat.lt_succ_self _) clears.number.symm
  · exact .quiet (.inl (effects ▸ mute))

theorem sequel_start (numbered : session.Numbered) (request : Request) :
    Sequel ⟨session, .input host (.start request)⟩ := by
  have known : ∀ uri, session.settings? uri = some session.general := by
    intro uri
    rw [settings?, unasking.pulls]
    rfl
  cases request with
  | «open» uri text version =>
    by_cases validated : session.validated.contains uri = true
    · refine .quiet (.inl ?_)
      simp only [Moment.effects, react, step, start, opened, draw, validated, if_true]
      exact fun _ _ => rfl
    · apply sequel_of_turn numbered
      simp only [Moment.turn?, turn?, validated, Bool.false_eq_true, if_false, beginning?, known]
      rfl
  | validate uri =>
    apply sequel_of_turn numbered
    simp only [Moment.turn?, turn?, beginning?, known]
    rfl
  | change uri text version =>
    cases present : session.documents.get? uri with
    | none =>
      refine .quiet (.inl ?_)
      simp only [Moment.effects, react, step, start, changed, draw, present]
      exact fun _ _ => rfl
    | some document =>
      refine .rests host uri text version session.nextOperation rfl ?_ ?_
      · exact (Table.contains_iff ..).mpr ⟨document, present⟩
      · simp only [Moment.effects, react, step, start, changed, draw, present]
        rfl
  | close uri => exact .quiet (.inl fun _ _ => rfl)
  | shutdown => exact .quiet (.inl fun _ _ => rfl)
  | configure settings => exact sequel_configure unasking host settings
  | ask uri question => exact sequel_ask unasking host uri question

theorem sequel_input (numbered : session.Numbered) (input : Input)
    (pursued : ∀ id, input ≠ .abandon id) : Sequel ⟨session, .input host input⟩ := by
  cases input with
  | start request => exact sequel_start unasking host numbered request
  | abandon id => exact absurd rfl (pursued id)
  | settings id answer =>
    refine .quiet (.inl ?_)
    simp only [Moment.effects, react, step]
    split
    · rename_i task waits
      exact absurd waits (unasking.fetching id task)
    · rename_i general waits
      exact absurd waits (unasking.reconfiguring id general)
    · exact fun _ _ => rfl
  | ended id ending =>
    refine .quiet ?_
    simp only [Moment.effects, Moment.after, react, step]
    split
    · exact quiet_checked session numbered id _ ending
    · exact .inl (mute_answered _ _ _ _ _ _)
    · exact .inl fun _ _ => rfl
  | rested uri ticket =>
    by_cases pending : session.timers.pending.get? uri = some ticket
    · apply sequel_of_turn numbered
      simp only [Moment.turn?, turn?, pending, if_true, beginning?, settings?, unasking.pulls]
      rfl
    · refine .quiet (.inl ?_)
      simp only [Moment.effects, react, step, Debounce.Register.claim?, pending, if_false]
      exact fun _ _ => rfl
  | turn id =>
    cases waits : session.operations.get? id with
    | none =>
      refine .quiet (.inl ?_)
      simp only [Moment.effects, react, step, waits]
      exact fun _ _ => rfl
    | some stage =>
      cases stage with
      | ready uri cause =>
        apply sequel_of_turn numbered
        simp only [Moment.turn?, turn?, waits, beginning?, settings?, unasking.pulls]
        rfl
      | revalidating waiting count =>
        refine .quiet (.inl ?_)
        cases waiting with
        | zero =>
          simp only [Moment.effects, react, step, waits]
          exact fun _ _ => rfl
        | succ waiting =>
          simp only [Moment.effects, react, step, waits]
          exact fun _ _ => rfl
      | fetching task => exact absurd waits (unasking.fetching id task)
      | reconfiguring general => exact absurd waits (unasking.reconfiguring id general)
      | checking check =>
        refine .quiet (.inl ?_)
        simp only [Moment.effects, react, step, waits]
        exact fun _ _ => rfl
      | asking inquiry executable scratch =>
        refine .quiet (.inl ?_)
        simp only [Moment.effects, react, step, waits]
        exact fun _ _ => rfl

end

end LanguageServer.Scenario
