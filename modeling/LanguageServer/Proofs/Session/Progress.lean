import LanguageServer.Proofs.Session.Standing

/-! What a moment does to the validations under way. Each of them stays where it is, unless it has
its turn, its call has ended or it is abandoned. -/

namespace LanguageServer.Session

/-- Numbers that have not been drawn belong to no operation. -/
def Numbered (session : Session) : Prop :=
  ∀ id, session.nextOperation ≤ id → session.operations.get? id = none

namespace Numbered

variable {session result : Session} {id : OperationId}

theorem below (numbered : session.Numbered) {stage : Stage}
    (waits : session.operations.get? id = some stage) : id < session.nextOperation := by
  refine Nat.lt_of_not_le fun undrawn => ?_
  rw [numbered id undrawn] at waits
  cases waits

theorem standing (numbered : session.Numbered) (undrawn : session.nextOperation ≤ id) :
    session.standing? id = none := by
  rw [standing?, numbered id undrawn]
  rfl

theorem draw (numbered : session.Numbered) : session.draw.1.Numbered :=
  fun id undrawn => numbered id (Nat.le_of_succ_le undrawn)

theorem touches (numbered : session.Numbered) (drawn : id < session.nextOperation)
    (touches : Touches session id result) : result.Numbered := by
  intro other undrawn
  rw [touches.number] at undrawn
  have different : other ≠ id := Nat.ne_of_gt (Nat.lt_of_lt_of_le drawn undrawn)
  have outline := touches.others other different
  rw [outline?, outline?, numbered other undrawn] at outline
  exact Option.map_eq_none_iff.mp outline

theorem fanOut (numbered : session.Numbered) (change : OperationId) (uris : List Uri) :
    (session.fanOut change uris).1.Numbered := by
  intro id undrawn
  rw [number_fanOut] at undrawn
  obtain ⟨place, rfl⟩ := Nat.exists_eq_add_of_le (Nat.le_trans (Nat.le_add_right ..) undrawn)
  have outside : uris.length ≤ place := Nat.le_of_add_le_add_left undrawn
  rw [fanOut_above, List.getElem?_eq_none outside, numbered _ (Nat.le_add_right ..)]
  rfl

end Numbered

/-- A change of the configuration ends at once or makes validations ready. -/
theorem reconfigured_cases (host : Host) (session : Session) (id : OperationId)
    (settings : Settings) :
    (∃ result, Clears session id result ∧
        session.reconfigured host id settings = (result, [.done id (.count 0)])) ∨
      ∃ waiting uris, Clears session id waiting ∧
        session.reconfigured host id settings = waiting.fanOut id uris := by
  have moved : Touches session id { session with compiler := host.locate settings } :=
    .of_eq rfl rfl
  unfold reconfigured
  dsimp only
  split
  · exact .inl ⟨_, clears_finish session id, rfl⟩
  · split
    · exact .inl ⟨_, moved.clears (clears_finish ..), rfl⟩
    · refine .inr ⟨_, _, ⟨moved.trans (touches_suspend ..), ?_⟩, rfl⟩
      exact standing?_suspend_self ..

theorem Clears.standing_eq {session result : Session} {id : OperationId}
    (clears : Clears session id result) (other : OperationId) :
    result.standing? other = if other = id then none else session.standing? other := by
  split
  · rename_i same
    rw [same, clears.gone]
  · rename_i different
    exact clears.standing different

/-! ### What becomes of a validation in a moment -/

/-- What becomes of the validation with a number, if there is one, in a moment. -/
inductive Moment.Shift (moment : Moment) (id : OperationId) : Prop
  | stays (same : moment.after.standing? id = moment.session.standing? id)
  /-- It begins and has to wait. -/
  | begins (undrawn : moment.session.nextOperation ≤ id) (uri : Uri) (cause : Cause)
      (waits : moment.after.standing? id = some (.preparing uri cause))
  | turns (turn : Turn) (has : moment.turn? = some turn) (same : turn.id = id)
  /-- Its call has ended. -/
  | ends (host : Host) (ending : Compiler.Ending) (check : Check)
      (now : moment.impulse = .input host (.ended id ending))
      (was : moment.session.operations.get? id = some (.checking check))
      (gone : moment.after.standing? id = none)
  | leaves (host : Host) (now : moment.impulse = .input host (.abandon id))
      (gone : moment.after.standing? id = none)

/-- The session with which an operation goes on: the operations are those that an impulse finds, and
the number of this one has been drawn. -/
structure Base (session base : Session) (id : OperationId) : Prop where
  operations : base.operations = session.operations
  number : session.nextOperation ≤ base.nextOperation
  drawn : id < base.nextOperation

/-- What a moment does to the table of operations. -/
inductive Moment.Motion (moment : Moment) : Prop
  | still (same : ∀ id, moment.after.outline? id = moment.session.outline? id)
      (number : moment.session.nextOperation ≤ moment.after.nextOperation)
  /-- One operation begins or goes on. -/
  | acts (id : OperationId) (base : Session) (basis : Base moment.session base id)
      (touches : Touches base id moment.after) (shift : moment.Shift id)
  /-- A change of the configuration makes validations ready. -/
  | fansOut (id : OperationId) (base : Session) (basis : Base moment.session base id)
      (other : moment.session.standing? id = none) (waiting : Session) (uris : List Uri)
      (clears : Clears base id waiting) (result : moment.after = (waiting.fanOut id uris).1)

namespace Base

variable {session base : Session} {id : OperationId}

theorem standing (basis : Base session base id) (other : OperationId) :
    base.standing? other = session.standing? other := by
  rw [standing?, standing?, basis.operations]

theorem numbered (basis : Base session base id) (numbered : session.Numbered) : base.Numbered := by
  intro other undrawn
  rw [basis.operations]
  exact numbered other (Nat.le_trans basis.number undrawn)

theorem drawing (operations : base.operations = session.operations)
    (number : base.nextOperation = session.nextOperation + 1) :
    Base session base session.nextOperation :=
  ⟨operations, number ▸ Nat.le_succ _, number ▸ Nat.lt_succ_self _⟩

theorem waiting (numbered : session.Numbered) {stage : Stage}
    (waits : session.operations.get? id = some stage)
    (operations : base.operations = session.operations)
    (number : base.nextOperation = session.nextOperation) : Base session base id :=
  ⟨operations, Nat.le_of_eq number.symm, number ▸ numbered.below waits⟩

end Base

namespace Moment

theorem motion_of_same {moment : Moment}
    (operations : moment.after.operations = moment.session.operations)
    (number : moment.session.nextOperation ≤ moment.after.nextOperation) : moment.Motion := by
  refine .still ?_ number
  intro id
  rw [outline?, outline?, operations]

/-- An operation after which no validation is left that was none before. -/
theorem motion_of_clears {moment : Moment} {base : Session} {id : OperationId}
    (basis : Base moment.session base id) (other : moment.session.standing? id = none)
    (clears : Clears base id moment.after) : moment.Motion :=
  .acts id base basis clears.toTouches (.stays (clears.gone.trans other.symm))

theorem motion_of_reconfigured {moment : Moment} (base : Session) {id : OperationId} (host : Host)
    (settings : Settings) (basis : Base moment.session base id)
    (other : moment.session.standing? id = none)
    (result : moment.after = (base.reconfigured host id settings).1) : moment.Motion := by
  rcases reconfigured_cases host base id settings with
    ⟨ended, clears, same⟩ | ⟨waiting, uris, clears, same⟩
  · rw [same] at result
    exact motion_of_clears basis other (result ▸ clears)
  · rw [same] at result
    exact .fansOut id base basis other waiting uris clears result

theorem motion_of_validate {moment : Moment} (base : Session) (host : Host) (uri : Uri)
    (cause : Cause) (basis : Base moment.session base moment.session.nextOperation)
    (has : moment.turn? = base.beginning? host moment.session.nextOperation uri cause)
    (result : moment.after = (base.validate host moment.session.nextOperation uri cause).1) :
    moment.Motion := by
  refine .acts _ base basis (result ▸ touches_validate ..) ?_
  cases begun : base.beginning? host moment.session.nextOperation uri cause with
  | none =>
    refine .begins (Nat.le_refl _) uri cause ?_
    rw [result]
    exact standing?_validate_self begun
  | some turn =>
    obtain ⟨settings, rfl, -⟩ := validate_of_beginning base begun
    exact .turns _ (has.trans begun) rfl

theorem motion_start (session : Session) (numbered : session.Numbered) (host : Host)
    (request : Request) : (⟨session, .input host (.start request)⟩ : Moment).Motion := by
  have drawing : Base session session.draw.1 session.nextOperation := .drawing rfl rfl
  have undrawn : session.standing? session.nextOperation = none :=
    numbered.standing (Nat.le_refl _)
  cases request with
  | «open» uri text version =>
    by_cases known : session.validated.contains uri = true
    · refine motion_of_same ?_ ?_ <;>
        simp only [after, react, step, start, opened, draw, known, if_true]
      exact Nat.le_succ _
    · refine motion_of_validate (session.prepared (.start (.open uri text version))) host uri
        .asked (.drawing rfl rfl) ?_ ?_
      · simp only [turn?, Session.turn?, known, Bool.false_eq_true, if_false]
        rfl
      · simp only [after, react, step, start, opened, draw, known, Bool.false_eq_true, if_false]
        rfl
  | change uri text version =>
    refine motion_of_same ?_ ?_ <;> simp only [after, react, step, start, changed, draw] <;>
      cases session.documents.get? uri
    · rfl
    · rfl
    · exact Nat.le_succ _
    · exact Nat.le_succ _
  | close uri => exact motion_of_same rfl (Nat.le_succ _)
  | shutdown => exact motion_of_same rfl (Nat.le_succ _)
  | validate uri => exact motion_of_validate session.draw.1 host uri .asked drawing rfl rfl
  | configure settings =>
    by_cases pulls : session.pulls = true
    · refine motion_of_clears drawing undrawn ?_
      simp only [after, react, step, start, configure, draw, pulls, if_true]
      refine ⟨Touches.trans ?_ (touches_suspend ..), standing?_suspend_self ..⟩
      exact .of_eq rfl rfl
    · refine motion_of_reconfigured { session.draw.1 with
        general := settings.getD session.general, settings := ∅ } host
        (settings.getD session.general) (.drawing rfl rfl) undrawn ?_
      simp only [after, react, step, start, configure, draw, pulls, Bool.false_eq_true, if_false]
  | ask uri question => exact motion_of_clears drawing undrawn (clears_ask ..)

theorem motion_settings (session : Session) (numbered : session.Numbered) (host : Host)
    (id : OperationId) (answer : Option Json) :
    (⟨session, .input host (.settings id answer)⟩ : Moment).Motion := by
  cases waits : session.operations.get? id with
  | none =>
    refine motion_of_same ?_ ?_ <;> simp [after, react, step, waits]
  | some stage =>
    have basis : Base session session id := .waiting numbered waits rfl rfl
    cases stage with
    | fetching task =>
      have keeps := touches_keep session id task.uri (layered session.general answer)
      cases task with
      | validate uri cause =>
        refine .acts id session basis ?_
          (.turns (.ofSettings host id uri cause (layered session.general answer)) ?_ rfl)
        · simp only [after, react, step, waits, informed]
          exact keeps.trans (touches_check ..)
        · simp only [turn?, Session.turn?, waits]
      | inquire inquiry =>
        refine motion_of_clears basis (by simp [standing?, waits, Stage.standing?]) ?_
        simp only [after, react, step, waits, informed]
        exact keeps.clears (clears_query ..)
    | reconfiguring general =>
      refine motion_of_reconfigured session host (layered general answer) basis
        (by simp [standing?, waits, Stage.standing?]) ?_
      simp only [after, react, step, waits]
    | ready uri cause => refine motion_of_same ?_ ?_ <;> simp [after, react, step, waits]
    | checking check => refine motion_of_same ?_ ?_ <;> simp [after, react, step, waits]
    | asking inquiry executable scratch =>
      refine motion_of_same ?_ ?_ <;> simp [after, react, step, waits]
    | revalidating waiting count => refine motion_of_same ?_ ?_ <;> simp [after, react, step, waits]

theorem motion_ended (session : Session) (numbered : session.Numbered) (host : Host)
    (id : OperationId) (ending : Compiler.Ending) :
    (⟨session, .input host (.ended id ending)⟩ : Moment).Motion := by
  cases waits : session.operations.get? id with
  | none => refine motion_of_same ?_ ?_ <;> simp [after, react, step, waits]
  | some stage =>
    have basis : Base session session id := .waiting numbered waits rfl rfl
    cases stage with
    | checking check =>
      have clears : Clears session id
          (⟨session, .input host (.ended id ending)⟩ : Moment).after := by
        simp only [after, react, step, waits]
        exact clears_checked ..
      exact .acts id session basis clears.toTouches (.ends host ending check rfl waits clears.gone)
    | asking inquiry executable scratch =>
      refine motion_of_clears basis (by simp [standing?, waits, Stage.standing?]) ?_
      simp only [after, react, step, waits]
      exact clears_answered ..
    | ready uri cause => refine motion_of_same ?_ ?_ <;> simp [after, react, step, waits]
    | fetching task => refine motion_of_same ?_ ?_ <;> simp [after, react, step, waits]
    | reconfiguring general => refine motion_of_same ?_ ?_ <;> simp [after, react, step, waits]
    | revalidating waiting count => refine motion_of_same ?_ ?_ <;> simp [after, react, step, waits]

theorem motion_rested (session : Session) (host : Host) (uri : Uri) (ticket : Nat) :
    (⟨session, .input host (.rested uri ticket)⟩ : Moment).Motion := by
  by_cases pending : session.timers.pending.get? uri = some ticket
  · refine motion_of_validate (session.prepared (.rested uri ticket)) host uri .rest
      (.drawing rfl rfl) ?_ ?_
    · simp only [turn?, Session.turn?, pending, if_true]
      rfl
    · simp only [after, react, step, Debounce.Register.claim?, pending, if_true]
      rfl
  · refine motion_of_same ?_ ?_ <;>
      simp [after, react, step, Debounce.Register.claim?, pending]

theorem motion_turn (session : Session) (numbered : session.Numbered) (host : Host)
    (id : OperationId) : (⟨session, .input host (.turn id)⟩ : Moment).Motion := by
  cases waits : session.operations.get? id with
  | none => refine motion_of_same ?_ ?_ <;> simp [after, react, step, waits]
  | some stage =>
    have basis : Base session session id := .waiting numbered waits rfl rfl
    cases stage with
    | ready uri cause =>
      have result : (⟨session, .input host (.turn id)⟩ : Moment).after =
          (session.validate host id uri cause).1 := by
        simp only [after, react, step, waits]
      refine .acts id session basis (result ▸ touches_validate ..) ?_
      cases begun : session.beginning? host id uri cause with
      | none =>
        refine .stays ?_
        rw [result, standing?_validate_self begun]
        simp [standing?, waits, Stage.standing?]
      | some turn =>
        obtain ⟨settings, rfl, -⟩ := validate_of_beginning session begun
        refine .turns (.ofSettings host id uri cause settings) ?_ rfl
        simp only [turn?, Session.turn?, waits, begun]
    | revalidating waiting count =>
      cases waiting with
      | zero =>
        refine motion_of_clears basis (by simp [standing?, waits, Stage.standing?]) ?_
        simp only [after, react, step, waits]
        exact clears_finish ..
      | succ waiting => refine motion_of_same ?_ ?_ <;> simp [after, react, step, waits]
    | fetching task => refine motion_of_same ?_ ?_ <;> simp [after, react, step, waits]
    | checking check => refine motion_of_same ?_ ?_ <;> simp [after, react, step, waits]
    | asking inquiry executable scratch =>
      refine motion_of_same ?_ ?_ <;> simp [after, react, step, waits]
    | reconfiguring general => refine motion_of_same ?_ ?_ <;> simp [after, react, step, waits]

theorem motion_abandon (session : Session) (numbered : session.Numbered) (host : Host)
    (id : OperationId) : (⟨session, .input host (.abandon id)⟩ : Moment).Motion := by
  have clears : Clears session id (⟨session, .input host (.abandon id)⟩ : Moment).after := by
    have discarded : ∀ file, Touches session id (session.discard file) :=
      fun _ => .of_eq rfl rfl
    simp only [after, react, step]
    split
    · exact (discarded _).clears (clears_finish ..)
    · exact (discarded _).clears (clears_finish ..)
    · exact clears_finish ..
  cases waits : session.operations.get? id with
  | none =>
    refine .still ?_ (Nat.le_of_eq clears.number.symm)
    intro other
    by_cases same : other = id
    · subst same
      simp [after, react, step, outline?, finish, waits]
    · exact clears.others other same
  | some stage =>
    exact .acts id session (.waiting numbered waits rfl rfl) clears.toTouches
      (.leaves host rfl clears.gone)

theorem motion (moment : Moment) (numbered : moment.session.Numbered) : moment.Motion := by
  obtain ⟨session, impulse⟩ := moment
  cases impulse with
  | support pulls => exact motion_of_same rfl (Nat.le_refl _)
  | general settings => exact motion_of_same rfl (Nat.le_refl _)
  | input host input =>
    cases input with
    | start request => exact motion_start session numbered host request
    | settings id answer => exact motion_settings session numbered host id answer
    | ended id ending => exact motion_ended session numbered host id ending
    | rested uri ticket => exact motion_rested session host uri ticket
    | turn id => exact motion_turn session numbered host id
    | abandon id => exact motion_abandon session numbered host id

theorem numbered_after (moment : Moment) (numbered : moment.session.Numbered) :
    moment.after.Numbered := by
  cases moment.motion numbered with
  | still same number =>
    intro id undrawn
    have outline := same id
    rw [outline?, outline?, numbered id (Nat.le_trans number undrawn)] at outline
    exact Option.map_eq_none_iff.mp outline
  | acts id base basis touches shift => exact (basis.numbered numbered).touches basis.drawn touches
  | fansOut id base basis other waiting uris clears result =>
    rw [result]
    exact ((basis.numbered numbered).touches basis.drawn clears.toTouches).fanOut id uris

theorem number_le_after (moment : Moment) (numbered : moment.session.Numbered) :
    moment.session.nextOperation ≤ moment.after.nextOperation := by
  cases moment.motion numbered with
  | still same number => exact number
  | acts id base basis touches shift =>
    rw [touches.number]
    exact basis.number
  | fansOut id base basis other waiting uris clears result =>
    rw [result, number_fanOut, clears.number]
    exact Nat.le_trans basis.number (Nat.le_add_right ..)

/-- What can become of a validation in a moment. -/
theorem shift (moment : Moment) (numbered : moment.session.Numbered) (id : OperationId) :
    moment.Shift id := by
  cases moment.motion numbered with
  | still same number => exact .stays (standing?_eq_of_outline (same id))
  | acts actor base basis touches shift =>
    by_cases same : id = actor
    · exact same ▸ shift
    · exact .stays ((touches.standing same).trans (basis.standing id))
  | fansOut change base basis other waiting uris clears result =>
    have kept : waiting.standing? id = moment.session.standing? id := by
      rw [clears.standing_eq, basis.standing]
      split
      · rename_i same
        rw [same, other]
      · rfl
    rcases Nat.lt_or_ge id waiting.nextOperation with below | above
    · refine .stays ?_
      rw [result, standing?, fanOut_below waiting change uris below, ← standing?, kept]
    · have undrawn : moment.session.nextOperation ≤ id :=
        Nat.le_trans basis.number (clears.number ▸ above)
      obtain ⟨place, rfl⟩ := Nat.exists_eq_add_of_le above
      have made := fanOut_above waiting change uris place
      cases present : uris[place]? with
      | none =>
        refine .stays ?_
        rw [result, standing?, made, present, ← kept]
        rfl
      | some uri =>
        refine .begins undrawn uri (.change change) ?_
        rw [result, standing?, made, present]
        rfl

end Moment

theorem numbered_fresh (general : Settings) : (fresh general).Numbered :=
  fun _ _ => rfl

theorem numbered_run (general : Settings) (impulses : List Impulse) :
    ((fresh general).after impulses).Numbered :=
  after_induction (fun session impulse => Moment.numbered_after ⟨session, impulse⟩) _
    (numbered_fresh general) impulses

/-- Numbers of operations only grow. -/
theorem numbers_run (session : Session) (numbered : session.Numbered) (impulses : List Impulse) :
    session.nextOperation ≤ (session.after impulses).nextOperation := by
  refine (after_induction (motive := fun later =>
    later.Numbered ∧ session.nextOperation ≤ later.nextOperation) ?_ session
    ⟨numbered, Nat.le_refl _⟩ impulses).2
  rintro later impulse ⟨laterNumbered, grows⟩
  exact ⟨Moment.numbered_after ⟨later, impulse⟩ laterNumbered,
    Nat.le_trans grows (Moment.number_le_after ⟨later, impulse⟩ laterNumbered)⟩

end LanguageServer.Session
