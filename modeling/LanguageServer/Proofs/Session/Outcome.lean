import LanguageServer.Proofs.Session.Provenance
import LanguageServer.Proofs.Session.Stretch

/-! The outcome of a validation tells what the validation did: whether it called the compiler, whether
it published something, and whether it left everything alone. This holds of every run, whatever other
operations do while the validation waits. -/

namespace LanguageServer.Session

/-! ### What a validation did -/

/-- What a validation did in a run, from its first stretch to its last one. -/
def work (id : OperationId) (run : List Moment) : List Stretch :=
  run.filterMap fun moment => moment.stretch?.filter (·.id = id)

/-- The conclusions to which a validation came in a run. -/
def concluded (id : OperationId) (run : List Moment) : List Conclusion :=
  (run.flatMap Moment.conclusions).filter (·.id = id)

/-- One stretch calls the compiler to check a file, with some settings, and there is no other call. -/
def CallsOnce (stretches : List Stretch) (settings : Settings) : Prop :=
  ∃ caller ∈ stretches, ∃ executable file text, caller.settings? = some settings ∧
    caller.calls = [⟨caller.id, executable, Compiler.checkArguments file, text⟩] ∧
    stretches.flatMap Stretch.calls = caller.calls

/-- What a validation of a document did amounts to an outcome. -/
def AmountsTo (uri : Uri) (stretches : List Stretch) : Outcome → Prop
  | .published count => ∃ settings publication, CallsOnce stretches settings ∧
      stretches.flatMap Stretch.published = [publication] ∧ publication.check.uri = uri ∧
      publication.diagnostics.length = count ∧ count ≤ settings.maxDiagnostics
  | .stale => (∃ settings, CallsOnce stretches settings) ∧
      stretches.flatMap Stretch.published = []
  | .failed =>
      (stretches.flatMap Stretch.calls = [] ∨ ∃ settings, CallsOnce stretches settings) ∧
        stretches.flatMap Stretch.published = []
  | .skipped => stretches.flatMap Stretch.calls = [] ∧ stretches.flatMap Stretch.published = [] ∧
      ∀ stretch ∈ stretches, Passive stretch.base stretch.after

section Appending

variable {id : OperationId} {past : List Moment} {moment : Moment} {stretch : Stretch}

theorem work_of_stretch (has : moment.stretch? = some stretch) :
    work stretch.id (past ++ [moment]) = work stretch.id past ++ [stretch] := by
  have single : work stretch.id [moment] = [stretch] := by
    simp [work, has, Option.filter]
  rw [← single]
  exact List.filterMap_append

theorem work_of_other (other : ∀ stretch, moment.stretch? = some stretch → stretch.id ≠ id) :
    work id (past ++ [moment]) = work id past := by
  cases has : moment.stretch? with
  | none => simp [work, has]
  | some stretch => simp [work, has, other stretch has]

theorem concluded_append :
    concluded id (past ++ [moment]) =
      concluded id past ++ moment.conclusions.filter (·.id = id) := by
  simp [concluded]

end Appending

/-! ### Stretches before and after the call -/

namespace Stretch

/-- A stretch before the compiler is called. -/
structure Opens (stretch : Stretch) : Prop where
  opening : Opening stretch.base stretch.id stretch.uri stretch.settings? stretch.after stretch.effects
  published : stretch.published = []

/-- A stretch after the call of a check. -/
structure Closes (stretch : Stretch) (check : Check) : Prop where
  about : stretch.uri = check.uri
  closing : Closing stretch.id check stretch.effects
  calls : stretch.calls = []
  gone : stretch.after.standing? stretch.id = none

theorem opens_begins (base : Session) (id : OperationId) (host : Host) (uri : Uri) (cause : Cause) :
    Opens ⟨base, id, .begins host uri cause⟩ :=
  ⟨opening_validate host base id uri cause, publications_validate ..⟩

theorem opens_informed (base : Session) (id : OperationId) (host : Host) (uri : Uri) (cause : Cause)
    (answer : Option Json) : Opens ⟨base, id, .informed host uri cause answer⟩ :=
  ⟨opening_informed host base id uri cause answer, publications_check ..⟩

theorem closes_ended (base : Session) (id : OperationId) (check : Check)
    (ending : Compiler.Ending) : Closes ⟨base, id, .ended check ending⟩ check :=
  ⟨rfl, closing_checked .., invocations_of_idle (checked_cases ..).2, (clears_checked ..).gone⟩

end Stretch

namespace Moment

variable {moment : Moment} {stretch : Stretch}

/-- Where a validation stands that goes on: it is new, it waits to begin or for settings, or its call
has ended. -/
theorem opens_or_closes (has : moment.stretch? = some stretch) :
    (stretch.Opens ∧
      ((stretch.id = moment.session.nextOperation ∧
          moment.after.nextOperation = moment.session.nextOperation + 1) ∨
        ∃ cause, moment.session.standing? stretch.id = some (.preparing stretch.uri cause))) ∨
      ∃ check, moment.session.standing? stretch.id = some (.checking check) ∧
        stretch.Closes check := by
  have after := (result_of_stretch has).1
  obtain ⟨session, impulse⟩ := moment
  -- What opens, asks or rests draws the number of the validation that begins with it.
  have begun : ∀ {base host uri cause}, base.nextOperation = session.nextOperation + 1 →
      stretch = ⟨base, session.nextOperation, .begins host uri cause⟩ →
      stretch.Opens ∧ stretch.id = session.nextOperation ∧
        (Moment.after ⟨session, impulse⟩).nextOperation = session.nextOperation + 1 := by
    rintro base host uri cause number rfl
    refine ⟨Stretch.opens_begins .., rfl, ?_⟩
    rw [after]
    exact ((touches_validate ..).number).trans number
  cases impulse with
  | support pulls => cases has
  | general settings => cases has
  | input host input =>
    simp only [stretch?, Session.stretch?] at has
    split at has
    · split at has
      · cases has
      · obtain ⟨opens, new⟩ := begun rfl (Option.some.inj has).symm
        exact .inl ⟨opens, .inl new⟩
    · obtain ⟨opens, new⟩ := begun rfl (Option.some.inj has).symm
      exact .inl ⟨opens, .inl new⟩
    · split at has
      · rename_i uri cause waits
        obtain rfl := Option.some.inj has
        refine .inl ⟨Stretch.opens_informed .., .inr ⟨cause, ?_⟩⟩
        simp only [standing?, waits]
        rfl
      · cases has
    · split at has
      · rename_i check waits
        obtain rfl := Option.some.inj has
        exact .inr ⟨check, standing?_eq_checking.mpr waits, Stretch.closes_ended ..⟩
      · cases has
    · split at has
      · obtain ⟨opens, new⟩ := begun rfl (Option.some.inj has).symm
        exact .inl ⟨opens, .inl new⟩
      · cases has
    · split at has
      · rename_i uri cause waits
        obtain rfl := Option.some.inj has
        refine .inl ⟨Stretch.opens_begins .., .inr ⟨cause, ?_⟩⟩
        simp only [standing?, waits]
        rfl
      · cases has
    · cases has

/-- A moment tells outcomes only of the validation that goes on in it. -/
theorem conclusions_of_other {id : OperationId}
    (other : ∀ stretch, moment.stretch? = some stretch → stretch.id ≠ id) :
    moment.conclusions.filter (·.id = id) = [] := by
  cases has : moment.stretch? with
  | none => rw [conclusions_of_none has, List.filter_nil]
  | some stretch =>
    have different := other stretch has
    rw [conclusions, (result_of_stretch has).2]
    rcases opens_or_closes has with ⟨opens, -⟩ | ⟨check, -, closes⟩
    · cases opens.opening with
      | waits cause passive told calls stands => rw [told, List.filter_nil]
      | skips passive told calls gone => simp [told, different]
      | fails told calls gone => simp [told, different]
      | calls settings check executable file text uses limit about told calls stands =>
        rw [told, List.filter_nil]
    · cases closes.closing with
      | shows diagnostics within told published => simp [told, different]
      | drops told published => simp [told, different]
      | fails told published => simp [told, different]

theorem stretch_number (numbered : moment.session.Numbered) (has : moment.stretch? = some stretch) :
    stretch.id < moment.after.nextOperation := by
  have drawn : ∀ standing, moment.session.standing? stretch.id = some standing →
      stretch.id < moment.after.nextOperation := by
    intro standing stands
    refine Nat.lt_of_lt_of_le (Nat.lt_of_not_le fun undrawn => ?_) (moment.number_le_after numbered)
    rw [numbered.standing undrawn] at stands
    cases stands
  rcases opens_or_closes has with ⟨-, ⟨new, number⟩ | ⟨cause, stands⟩⟩ | ⟨check, stands, -⟩
  · rw [new, number]
    exact Nat.lt_succ_self _
  · exact drawn _ stands
  · exact drawn _ stands

theorem stretch_of_turn {turn : Turn} (has : moment.turn? = some turn) :
    moment.stretch?.map Stretch.id = some turn.id := by
  obtain ⟨session, impulse⟩ := moment
  have begun : ∀ {host id uri cause}, session.beginning? host id uri cause = some turn →
      some id = some turn.id := by
    intro host id uri cause begins
    obtain ⟨settings, rfl, -⟩ := validate_of_beginning session begins
    rfl
  cases impulse with
  | support pulls => cases has
  | general settings => cases has
  | input host input =>
    simp only [turn?, Session.turn?] at has
    split at has
    · split at has
      · cases has
      · rename_i new
        simp only [stretch?, Session.stretch?, new, Bool.false_eq_true, if_false]
        exact begun has
    · exact begun has
    · split at has
      · rename_i waits
        obtain rfl := Option.some.inj has
        simp only [stretch?, Session.stretch?, waits]
        rfl
      · cases has
    · split at has
      · rename_i pending
        simp only [stretch?, Session.stretch?, pending, if_true]
        exact begun has
      · cases has
    · split at has
      · rename_i waits
        simp only [stretch?, Session.stretch?, waits]
        exact begun has
      · cases has
    · cases has

/-- Nothing but validations publishes anything, calls the compiler to check a file or comes to an
outcome. -/
theorem still_of_none (numbered : moment.session.Numbered) (none : moment.stretch? = none) :
    moment.published = [] ∧ moment.conclusions = [] ∧
      ∀ call ∈ moment.calls, ∀ file, call.arguments ≠ Compiler.checkArguments file := by
  refine ⟨?_, conclusions_of_none none, ?_⟩
  · rcases moment.published_cases with silent | ⟨host, id, output, check, now, waits, -⟩
    · exact silent
    · simp only [stretch?, now, Session.stretch?, waits] at none
      cases none
  · intro call member file same
    obtain ⟨effect, made, calls⟩ := List.mem_filterMap.mp member
    cases effect with
    | call id executable arguments contents =>
      obtain rfl := Option.some.inj calls
      obtain rfl : arguments = Compiler.checkArguments file := same
      obtain ⟨turn, check, -, begins⟩ := begins_of_call numbered made
      have goes := stretch_of_turn begins.has
      rw [none] at goes
      cases goes
    | _ => cases calls

end Moment

/-! ### Through a run -/

/-- What a validation did that has not called the compiler. -/
structure Untouched (uri : Uri) (stretches : List Stretch) : Prop where
  about : ∀ stretch ∈ stretches, stretch.uri = uri
  calls : stretches.flatMap Stretch.calls = []
  published : stretches.flatMap Stretch.published = []
  passive : ∀ stretch ∈ stretches, Passive stretch.base stretch.after

/-- What a validation did that waits for the compiler. -/
structure Awaiting (check : Check) (stretches : List Stretch) : Prop where
  about : ∀ stretch ∈ stretches, stretch.uri = check.uri
  once : ∃ settings, CallsOnce stretches settings ∧ check.limit = settings.maxDiagnostics
  published : stretches.flatMap Stretch.published = []

theorem untouched_nil (uri : Uri) : Untouched uri [] := by
  constructor <;> simp

/-- What a validation has done so far, by where it stands, and what it came to. -/
structure Reckoned (id : OperationId) (past : List Moment) (session : Session) : Prop where
  unborn : session.nextOperation ≤ id → work id past = [] ∧ concluded id past = []
  preparing : ∀ uri cause, session.standing? id = some (.preparing uri cause) →
    Untouched uri (work id past) ∧ concluded id past = []
  checking : ∀ check, session.standing? id = some (.checking check) →
    Awaiting check (work id past) ∧ concluded id past = []
  ended : ∀ conclusion ∈ concluded id past, concluded id past = [conclusion] ∧
    ∃ uri, (∀ stretch ∈ work id past, stretch.uri = uri) ∧
      AmountsTo uri (work id past) conclusion.outcome

namespace Reckoned

variable {id : OperationId} {past : List Moment} {session : Session}

theorem of_preparing {uri : Uri} {cause : Cause} (drawn : id < session.nextOperation)
    (stands : session.standing? id = some (.preparing uri cause))
    (untouched : Untouched uri (work id past)) (silent : concluded id past = []) :
    Reckoned id past session := by
  refine ⟨fun undrawn => absurd drawn (Nat.not_lt_of_le undrawn), ?_, ?_, ?_⟩
  · intro other again waits
    obtain ⟨rfl, -⟩ := Standing.preparing.inj (Option.some.inj (stands.symm.trans waits))
    exact ⟨untouched, silent⟩
  · intro check checks
    rw [stands] at checks
    cases checks
  · intro conclusion member
    rw [silent] at member
    cases member

theorem of_checking {check : Check} (drawn : id < session.nextOperation)
    (stands : session.standing? id = some (.checking check))
    (awaiting : Awaiting check (work id past)) (silent : concluded id past = []) :
    Reckoned id past session := by
  refine ⟨fun undrawn => absurd drawn (Nat.not_lt_of_le undrawn), ?_, ?_, ?_⟩
  · intro uri cause waits
    rw [stands] at waits
    cases waits
  · intro other checks
    obtain rfl := Standing.checking.inj (Option.some.inj (stands.symm.trans checks))
    exact ⟨awaiting, silent⟩
  · intro conclusion member
    rw [silent] at member
    cases member

theorem of_ended {uri : Uri} {outcome : Outcome} (drawn : id < session.nextOperation)
    (gone : session.standing? id = none) (told : concluded id past = [⟨id, outcome⟩])
    (about : ∀ stretch ∈ work id past, stretch.uri = uri)
    (amounts : AmountsTo uri (work id past) outcome) : Reckoned id past session := by
  refine ⟨fun undrawn => absurd drawn (Nat.not_lt_of_le undrawn), ?_, ?_, ?_⟩
  · intro other cause waits
    rw [gone] at waits
    cases waits
  · intro check checks
    rw [gone] at checks
    cases checks
  · intro conclusion member
    rw [told, List.mem_singleton] at member
    subst member
    exact ⟨told, uri, about, amounts⟩

end Reckoned

section Steps

variable {past : List Moment} {moment : Moment} {stretch : Stretch}

theorem about_append {uri : Uri} {stretches : List Stretch}
    (about : ∀ stretch ∈ stretches, stretch.uri = uri) (same : stretch.uri = uri) :
    ∀ other ∈ stretches ++ [stretch], other.uri = uri := by
  intro other member
  rcases List.mem_append.mp member with before | last
  · exact about other before
  · rw [List.mem_singleton.mp last]
    exact same

theorem Untouched.append {stretches : List Stretch} (untouched : Untouched stretch.uri stretches)
    (calls : stretch.calls = []) (published : stretch.published = [])
    (passive : Passive stretch.base stretch.after) :
    Untouched stretch.uri (stretches ++ [stretch]) := by
  refine ⟨about_append untouched.about rfl, ?_, ?_, ?_⟩
  · simp [untouched.calls, calls]
  · simp [untouched.published, published]
  · intro other member
    rcases List.mem_append.mp member with before | last
    · exact untouched.passive other before
    · rw [List.mem_singleton.mp last]
      exact passive

/-- What a stretch tells is all that its validation has come to, if that was nothing before. -/
theorem concluded_of_stretch (has : moment.stretch? = some stretch)
    (silent : concluded stretch.id past = []) :
    concluded stretch.id (past ++ [moment]) =
      (conclusions stretch.effects).filter (·.id = stretch.id) := by
  rw [concluded_append, silent, List.nil_append, Moment.conclusions,
    (Moment.result_of_stretch has).2]

theorem concluded_of_silent (has : moment.stretch? = some stretch)
    (silent : concluded stretch.id past = []) (told : conclusions stretch.effects = []) :
    concluded stretch.id (past ++ [moment]) = [] := by
  rw [concluded_of_stretch has silent, told, List.filter_nil]

theorem concluded_of_told (has : moment.stretch? = some stretch)
    (silent : concluded stretch.id past = []) {outcome : Outcome}
    (told : conclusions stretch.effects = [⟨stretch.id, outcome⟩]) :
    concluded stretch.id (past ++ [moment]) = [⟨stretch.id, outcome⟩] := by
  rw [concluded_of_stretch has silent, told]
  simp

/-- A stretch before the call: the validation is as far as it comes. -/
theorem reckoned_of_opens (numbered : moment.session.Numbered) (has : moment.stretch? = some stretch)
    (opens : stretch.Opens) (untouched : Untouched stretch.uri (work stretch.id past))
    (silent : concluded stretch.id past = []) :
    Reckoned stretch.id (past ++ [moment]) moment.after := by
  have drawn := Moment.stretch_number numbered has
  have worked : work stretch.id (past ++ [moment]) = _ := work_of_stretch has
  have published := opens.published
  have about := about_append untouched.about (Eq.refl stretch.uri)
  rw [← worked] at about
  have after := (Moment.result_of_stretch has).1
  cases opens.opening with
  | waits cause passive told calls stands =>
    refine .of_preparing drawn (after ▸ stands) ?_ (concluded_of_silent has silent told)
    rw [worked]
    exact untouched.append calls published passive
  | skips passive told calls gone =>
    have whole := untouched.append calls published passive
    refine .of_ended drawn (after ▸ gone) (concluded_of_told has silent told) about ?_
    rw [worked]
    exact ⟨whole.calls, whole.published, whole.passive⟩
  | fails told calls gone =>
    have uncalled : stretch.calls = [] := calls
    refine .of_ended drawn (after ▸ gone) (concluded_of_told has silent told) about ?_
    rw [worked]
    refine ⟨.inl ?_, ?_⟩
    · simp [untouched.calls, uncalled]
    · simp [untouched.published, published]
  | calls settings check executable file text uses limit same told calls stands =>
    refine .of_checking drawn (after ▸ stands) ?_ (concluded_of_silent has silent told)
    refine ⟨same ▸ about, ⟨settings, ?_, limit⟩, ?_⟩
    · refine ⟨stretch, ?_, executable, file, text, uses, calls, ?_⟩
      · simp [worked]
      · simp [worked, untouched.calls]
    · simp [worked, untouched.published, published]

/-- A later stretch that makes no call leaves the one that was made. -/
theorem CallsOnce.append {stretches : List Stretch} {settings : Settings}
    (once : CallsOnce stretches settings) (calls : stretch.calls = []) :
    CallsOnce (stretches ++ [stretch]) settings := by
  obtain ⟨caller, member, executable, file, text, uses, called, only⟩ := once
  refine ⟨caller, List.mem_append_left _ member, executable, file, text, uses, called, ?_⟩
  simp [only, calls]

theorem reckoned_of_closes (numbered : moment.session.Numbered)
    (has : moment.stretch? = some stretch) {check : Check} (closes : stretch.Closes check)
    (awaiting : Awaiting check (work stretch.id past)) (silent : concluded stretch.id past = []) :
    Reckoned stretch.id (past ++ [moment]) moment.after := by
  have drawn := Moment.stretch_number numbered has
  have worked : work stretch.id (past ++ [moment]) = _ := work_of_stretch has
  have gone : moment.after.standing? stretch.id = none :=
    (Moment.result_of_stretch has).1 ▸ closes.gone
  have about := about_append awaiting.about closes.about
  rw [← worked] at about
  obtain ⟨settings, once, limit⟩ := awaiting.once
  have called := once.append closes.calls
  have published : (work stretch.id past ++ [stretch]).flatMap Stretch.published =
      stretch.published := by
    simp [awaiting.published]
  cases closes.closing with
  | shows diagnostics within told shown =>
    refine .of_ended drawn gone (concluded_of_told has silent told) about ?_
    rw [worked]
    exact ⟨settings, _, called, published.trans shown, rfl, rfl, limit ▸ within⟩
  | drops told shown =>
    refine .of_ended drawn gone (concluded_of_told has silent told) about ?_
    rw [worked]
    exact ⟨⟨settings, called⟩, published.trans shown⟩
  | fails told shown =>
    refine .of_ended drawn gone (concluded_of_told has silent told) about ?_
    rw [worked]
    exact ⟨.inr ⟨settings, called⟩, published.trans shown⟩

/-- A moment in which a validation does nothing: it begins to wait, stays where it is or is
abandoned. -/
theorem Reckoned.of_other {id : OperationId} (numbered : moment.session.Numbered)
    (reckoned : Reckoned id past moment.session)
    (other : ∀ stretch, moment.stretch? = some stretch → stretch.id ≠ id) :
    Reckoned id (past ++ [moment]) moment.after := by
  have worked : work id (past ++ [moment]) = work id past := work_of_other other
  have told : concluded id (past ++ [moment]) = concluded id past := by
    rw [concluded_append, Moment.conclusions_of_other other, List.append_nil]
  -- It has not its turn and its call does not end, so its standing is what it was or is new or gone.
  have unturned : ∀ turn, moment.turn? = some turn → turn.id ≠ id := by
    intro turn has same
    obtain ⟨stretch, goes, equal⟩ := Option.map_eq_some_iff.mp (Moment.stretch_of_turn has)
    exact other stretch goes (equal.trans same)
  have unended : ∀ host ending check, moment.impulse = .input host (.ended id ending) →
      moment.session.operations.get? id ≠ some (.checking check) := by
    intro host ending check now waits
    refine other ⟨moment.session, id, .ended check ending⟩ ?_ rfl
    simp only [Moment.stretch?, now, stretch?, waits]
  refine ⟨?_, ?_, ?_, ?_⟩
  · intro undrawn
    rw [worked, told]
    exact reckoned.unborn (Nat.le_trans (moment.number_le_after numbered) undrawn)
  · intro uri cause stands
    rw [worked, told]
    cases moment.shift numbered id with
    | stays same => exact reckoned.preparing uri cause (same ▸ stands)
    | begins undrawn begun why waits =>
      obtain ⟨nothing, silent⟩ := reckoned.unborn undrawn
      rw [nothing]
      exact ⟨untouched_nil uri, silent⟩
    | turns turn has same => exact absurd same (unturned turn has)
    | ends host ending check now was gone => exact absurd was (unended host ending check now)
    | leaves host now gone =>
      rw [gone] at stands
      cases stands
  · intro check checks
    rw [worked, told]
    cases moment.shift numbered id with
    | stays same => exact reckoned.checking check (same ▸ checks)
    | begins undrawn uri cause waits =>
      rw [waits] at checks
      cases checks
    | turns turn has same => exact absurd same (unturned turn has)
    | ends host ending check now was gone => exact absurd was (unended host ending check now)
    | leaves host now gone =>
      rw [gone] at checks
      cases checks
  · rw [worked, told]
    exact reckoned.ended

theorem Reckoned.after (moment : Moment) {id : OperationId} (numbered : moment.session.Numbered)
    (reckoned : Reckoned id past moment.session) : Reckoned id (past ++ [moment]) moment.after := by
  by_cases goes : ∃ stretch, moment.stretch? = some stretch ∧ stretch.id = id
  · obtain ⟨stretch, has, rfl⟩ := goes
    rcases Moment.opens_or_closes has with
      ⟨opens, ⟨new, -⟩ | ⟨cause, stands⟩⟩ | ⟨check, stands, closes⟩
    · obtain ⟨nothing, silent⟩ := reckoned.unborn (Nat.le_of_eq new.symm)
      refine reckoned_of_opens numbered has opens ?_ silent
      rw [nothing]
      exact untouched_nil stretch.uri
    · obtain ⟨untouched, silent⟩ := reckoned.preparing _ cause stands
      exact reckoned_of_opens numbered has opens untouched silent
    · obtain ⟨awaiting, silent⟩ := reckoned.checking check stands
      exact reckoned_of_closes numbered has closes awaiting silent
  · exact reckoned.of_other numbered fun stretch has same => goes ⟨stretch, has, same⟩

end Steps

theorem reckoned_run (general : Settings) (impulses : List Impulse) (id : OperationId) :
    Reckoned id ((fresh general).moments impulses) ((fresh general).after impulses) := by
  refine (run_induction (motive := fun past session => session.Numbered ∧ Reckoned id past session)
    ?_ [] (fresh general) ⟨numbered_fresh general, ?_⟩ impulses).2
  · rintro past session impulse ⟨numbered, reckoned⟩
    exact ⟨Moment.numbered_after ⟨session, impulse⟩ numbered,
      Reckoned.after ⟨session, impulse⟩ numbered reckoned⟩
  · refine ⟨fun _ => ⟨rfl, rfl⟩, ?_, ?_, ?_⟩
    · intro uri cause stands
      cases stands
    · intro check checks
      cases checks
    · intro conclusion member
      cases member

/-- In every run, whatever other operations do in between, a validation changes nothing but the
settings and the revision of its own document, and it comes to one outcome at most, which tells what
it did. Nothing else than validations publishes or checks anything. -/
theorem outcome_tells_effects (general : Settings) (impulses : List Impulse) :
    let run := (fresh general).moments impulses
    (∀ moment ∈ run,
      (moment.stretch? = none → moment.published = [] ∧ moment.conclusions = [] ∧
        ∀ call ∈ moment.calls, ∀ file, call.arguments ≠ Compiler.checkArguments file) ∧
      ∀ stretch, moment.stretch? = some stretch →
        moment.after = stretch.after ∧ moment.effects = stretch.effects ∧
          stretch.base.books.Confined stretch.uri stretch.after.books) ∧
      ∀ id outcome, ⟨id, outcome⟩ ∈ run.flatMap Moment.conclusions →
        concluded id run = [⟨id, outcome⟩] ∧
          ∃ uri, (∀ stretch ∈ work id run, stretch.uri = uri) ∧
            AmountsTo uri (work id run) outcome := by
  intro run
  refine ⟨?_, ?_⟩
  · intro moment member
    obtain ⟨place, here⟩ := List.getElem?_of_mem member
    refine ⟨Moment.still_of_none (numbered_at here), ?_⟩
    intro stretch has
    obtain ⟨after, effects⟩ := Moment.result_of_stretch has
    exact ⟨after, effects, stretch.confined⟩
  · intro id outcome told
    have member : ⟨id, outcome⟩ ∈ concluded id run := List.mem_filter.mpr ⟨told, by simp⟩
    exact (reckoned_run general impulses id).ended _ member

/-- Two validations overlap, and two more come after them: one finds no compiler, and for the other no
file can be made. -/
def fourfoldRun (uri : Uri) (output : Compiler.Output) : List Impulse :=
  overlappingRun ⟨fun _ => some "/bin/volta", fun _ => some "/tmp/a.volta"⟩ uri output ++
    [.input ⟨fun _ => none, fun _ => some "/tmp/b.volta"⟩ (.start (.validate uri)),
      .input ⟨fun _ => some "/bin/volta", fun _ => none⟩ (.start (.validate uri))]

theorem outcome_tells_effects_fourfold :
    let run := (fresh {}).moments (fourfoldRun ⟨"file:///a"⟩ ⟨"", "a:1:2: error: x", some 0⟩)
    run.flatMap Moment.conclusions =
        [⟨0, .stale⟩, ⟨1, .published 1⟩, ⟨2, .skipped⟩, ⟨3, .failed⟩] ∧
      (∃ uri, AmountsTo uri (work 0 run) .stale) ∧ (∃ uri, AmountsTo uri (work 1 run) (.published 1)) ∧
      (∃ uri, AmountsTo uri (work 2 run) .skipped) ∧ (∃ uri, AmountsTo uri (work 3 run) .failed) ∧
      ∃ moment ∈ run, ∃ stretch, moment.stretch? = some stretch ∧
        stretch.base.books.Confined stretch.uri stretch.after.books := by
  intro run
  have told : run.flatMap Moment.conclusions =
      [⟨0, .stale⟩, ⟨1, .published 1⟩, ⟨2, .skipped⟩, ⟨3, .failed⟩] := by decide +kernel
  obtain ⟨kept, tells⟩ :=
    outcome_tells_effects {} (fourfoldRun ⟨"file:///a"⟩ ⟨"", "a:1:2: error: x", some 0⟩)
  have amounts : ∀ id outcome, ⟨id, outcome⟩ ∈ run.flatMap Moment.conclusions →
      ∃ uri, AmountsTo uri (work id run) outcome := by
    intro id outcome member
    obtain ⟨-, uri, -, amounts⟩ := tells id outcome member
    exact ⟨uri, amounts⟩
  rw [told] at amounts
  obtain ⟨moment, member, stretch, has⟩ :
      ∃ moment ∈ run, ∃ stretch, moment.stretch? = some stretch :=
    ⟨_, List.mem_cons_self, _, rfl⟩
  exact ⟨told, amounts 0 _ (by simp), amounts 1 _ (by simp), amounts 2 _ (by simp),
    amounts 3 _ (by simp), moment, member, stretch, has, ((kept moment member).2 stretch has).2.2⟩

end LanguageServer.Session
