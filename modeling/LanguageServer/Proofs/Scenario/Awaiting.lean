import LanguageServer.Proofs.Scenario.Forecast

/-! Requests whose results are waited for. If no operation is under way when the request is made, and
none begins before its result is there, all that happens meanwhile is for the request: what was
planned before leads to nothing. -/

namespace LanguageServer

namespace Session

/-- An input that is for no operation under way, and with which none begins, does nothing. -/
theorem step_idle {session : Session} (host : Host) {input : Input}
    (idle : ∀ id, input.operation? = some id → session.operations.get? id = none)
    (calm : ¬ Moment.Commences ⟨session, .input host input⟩) :
    session.step host input = (session, []) := by
  cases input with
  | start request => exact absurd ⟨host, .inl ⟨request, rfl⟩⟩ calm
  | settings id answer =>
    have none := idle id rfl
    simp only [step, none]
  | ended id ending =>
    have none := idle id rfl
    simp only [step, none]
  | turn id =>
    have none := idle id rfl
    simp only [step, none]
  | abandon id =>
    have none := idle id rfl
    simp only [step, none, finish, Table.erase_of_absent none]
  | rested uri ticket =>
    have late : session.timers.pending.get? uri ≠ some ticket := by
      intro pending
      exact calm ⟨host, .inr ⟨uri, ticket, rfl, pending⟩⟩
    simp only [step, Debounce.Register.claim?, late, if_false]

end Session

namespace Scenario

open Session

/-! ### Results -/

theorem background_performAll (world : World Result) (now : Nat) (effects : List Effect) :
    (performAll world now effects).1.background = world.background := by
  induction effects generalizing world with
  | nil => rfl
  | cons effect rest ih =>
    have first : (perform world now effect).1.background = world.background := by
      cases effect with
      | done id result =>
        simp only [perform, World.finish]
        split <;> rfl
      | _ => rfl
    exact (ih _).trans first

/-- Only the end of an operation gives it a result. -/
theorem finished_performAll (world : World Result) (now : Nat) {effects : List Effect}
    {id : OperationId} (undone : ∀ result, .done id result ∉ effects) :
    (performAll world now effects).1.finished.get? id = world.finished.get? id := by
  induction effects generalizing world with
  | nil => rfl
  | cons effect rest ih =>
    have first : (perform world now effect).1.finished.get? id = world.finished.get? id := by
      cases effect with
      | done other result =>
        have different : id ≠ other := by
          rintro rfl
          exact undone result (List.mem_cons_self ..)
        simp only [perform, World.finish]
        split
        · rfl
        · exact Table.get?_put_of_ne _ _ different
      | _ => rfl
    refine (ih _ ?_).trans first
    exact fun result member => undone result (List.mem_cons_of_mem _ member)

/-! ### Waiting for a result -/

/-- The run of a trial that waits for the result of an operation. -/
def awaiting (id : OperationId) : Simulation.Course State Input where
  prefer := continues id
  stop state := state.world.finished.contains id

namespace Trial

/-- The moments of a request whose result is waited for, with their times. -/
def awaited (trial : Trial) (request : Request) : List (Nat × Moment) :=
  let started := Simulation.feed machine trial (.start request)
  moments ((trial.now, trial.state, .start request) ::
    started.taken machine (awaiting trial.state.session.nextOperation) (started.load machine))

/-- The signs of a document in moments, with their times. -/
def signs (uri : Uri) (moments : List (Nat × Moment)) : List (Nat × Sign) :=
  moments.flatMap fun (time, moment) =>
    (Session.signs uri moment.after moment.effects).map (time, ·)

/-- No operation begins while another is under way. -/
def Calm (moments : List (Nat × Moment)) : Prop :=
  ∀ entry ∈ moments, entry.2.Calm

theorem signs_cons (uri : Uri) (time : Nat) (state : State) (input : Input)
    (rest : List (Nat × State × Input)) :
    signs uri (moments ((time, state, input) :: rest)) =
      (Session.signs uri (state.moment input).after (state.moment input).effects).map (time, ·) ++
        signs uri (moments rest) := rfl

/-- A trial in which an operation has no result yet. Beside what is planned for it, there are inputs
for operations that were started before. -/
structure Awaits (surroundings : Surroundings) (id : OperationId) (trial : Trial)
    (planned old : List (Nat × Input)) : Prop where
  surroundings : trial.state.world.toSurroundings = surroundings
  unfinished : trial.state.world.finished.get? id = none
  foreground : trial.state.world.background.get? id = none
  ordered : trial.agenda.Ordered
  entries : trial.agenda.entries.Perm (planned ++ old)
  earlier : ∀ entry ∈ old, ∀ other, entry.2.operation? = some other → other < id

namespace Awaits

variable {surroundings : Surroundings} {id : OperationId} {trial : Trial}
  {planned old : List (Nat × Input)} {input : Input}

theorem perm {others : List (Nat × Input)} (awaits : Awaits surroundings id trial planned old)
    (same : planned.Perm others) : Awaits surroundings id trial others old where
  surroundings := awaits.surroundings
  unfinished := awaits.unfinished
  foreground := awaits.foreground
  ordered := awaits.ordered
  entries := awaits.entries.trans (same.append_right old)
  earlier := awaits.earlier

theorem goes (awaits : Awaits surroundings id trial planned old) :
    (awaiting id).stop trial.state = false := by
  simp only [awaiting, Table.contains, awaits.unfinished]
  rfl

theorem feed (awaits : Awaits surroundings id trial planned old)
    (undone : ∀ result, .done id result ∉ (trial.state.moment input).effects) :
    Awaits surroundings id (Simulation.feed machine trial input)
      (((trial.state.moment input).effects.flatMap (follows surroundings trial.now)).map
        (fun item => (item.1.due trial.now, item.2)) ++ planned) old where
  surroundings := (feed_surroundings trial input).trans awaits.surroundings
  unfinished := (finished_performAll _ _ undone).trans awaits.unfinished
  foreground := (congrArg (·.get? id) (background_performAll ..)).trans awaits.foreground
  ordered := by
    rw [feed_agenda]
    exact awaits.ordered.planAll _
  entries := by
    rw [feed_agenda, List.append_assoc, following, awaits.surroundings]
    exact (Agenda.planAll_perm ..).trans (awaits.entries.append_left _)
  earlier := awaits.earlier

theorem ends (awaits : Awaits surroundings id trial planned old) {result : Result}
    (done : (trial.state.moment input).effects = [.done id result]) (fuel : Nat) :
    let after := Simulation.feed machine trial input
    (Simulation.runFor machine (awaiting id) fuel after).state.world.finished.get? id = some result ∧
      Simulation.taken machine (awaiting id) fuel after = [] := by
  intro after
  have world : after.state.world = (performAll trial.state.world trial.now [.done id result]).1 :=
    congrArg (fun effects => (performAll trial.state.world trial.now effects).1) done
  have finished : after.state.world.finished.get? id = some result := by
    rw [world]
    simp only [performAll, perform, World.finish, awaits.foreground]
    exact Table.get?_put_self ..
  have stops : (awaiting id).stop after.state = true :=
    (Table.contains_iff ..).mpr ⟨result, finished⟩
  obtain ⟨nothing, stays⟩ := Simulation.taken_of_stop stops fuel
  rw [stays]
  exact ⟨finished, nothing⟩

end Awaits

/-- What is taken from two lists is from one of them. -/
theorem perm_append_cons {α : Type} {entry : α} {rest one other : List α}
    (same : (entry :: rest).Perm (one ++ other)) :
    (∃ less, one.Perm (entry :: less) ∧ rest.Perm (less ++ other)) ∨
      ∃ less, other.Perm (entry :: less) ∧ rest.Perm (one ++ less) := by
  rcases List.mem_append.mp (same.mem_iff.mp (List.mem_cons_self ..)) with inside | inside
  · obtain ⟨before, after, rfl⟩ := List.append_of_mem inside
    left
    refine ⟨before ++ after, List.perm_middle, ?_⟩
    apply (List.perm_cons entry).mp
    exact same.trans (List.perm_middle.append_right other)
  · obtain ⟨before, after, rfl⟩ := List.append_of_mem inside
    right
    refine ⟨before ++ after, List.perm_middle, ?_⟩
    apply (List.perm_cons entry).mp
    refine same.trans ((List.perm_middle.append_left one).trans ?_)
    exact List.perm_middle

/-- An input for an operation that was started before does nothing. -/
theorem Awaits.skips {surroundings : Surroundings} {id : OperationId} {trial : Trial}
    {planned old less : List (Nat × Input)} {due : Nat} {input : Input} {agenda : Agenda Input}
    (awaits : Awaits surroundings id trial planned old) (same : old.Perm ((due, input) :: less))
    (ordered : agenda.Ordered) (entries : agenda.entries.Perm (planned ++ less)) {stage : Stage}
    (waits : trial.state.session.operations.get? id = some stage)
    (idle : ∀ other, other < id → trial.state.session.operations.get? other = none)
    (calm : (trial.state.moment input).Calm) :
    (trial.state.moment input).effects = [] ∧
      Simulation.feed machine ⟨trial.state, agenda⟩ input = ⟨trial.state, agenda⟩ ∧
      Awaits surroundings id ⟨trial.state, agenda⟩ planned less := by
  have unheard : trial.state.session.step trial.state.world.host input =
      (trial.state.session, []) := by
    apply step_idle
    · intro other names
      exact idle other (awaits.earlier _ (same.mem_iff.mpr (List.mem_cons_self ..)) other names)
    · intro commences
      cases waits.symm.trans (calm commences id)
  refine ⟨congrArg Prod.snd unheard, ?_, ?_⟩
  · simp only [Simulation.feed, machine, unheard]
    rfl
  · refine ⟨awaits.surroundings, awaits.unfinished, awaits.foreground, ordered, entries, ?_⟩
    intro entry inside
    exact awaits.earlier entry (same.mem_iff.mpr (List.mem_cons_of_mem _ inside))

/-- What comes next of all that is planned for an operation: the trial that finds it, and what is left
of the run. -/
structure Comes (surroundings : Surroundings) (id : OperationId) (fuel : Nat) (trial : Trial)
    (planned old : List (Nat × Input)) (due : Nat) (input : Input) (agenda : Agenda Input)
    (less older : List (Nat × Input)) (left : Nat) : Prop where
  planned : planned.Perm ((due, input) :: less)
  awaits : Awaits surroundings id ⟨trial.state, agenda⟩ less older
  time : agenda.now = due
  spent : fuel + older.length = left + 1 + old.length
  run : Simulation.runFor machine (awaiting id) fuel trial =
    Simulation.runFor machine (awaiting id) left
      (Simulation.feed machine ⟨trial.state, agenda⟩ input)
  signs : ∀ uri, signs uri (moments (trial.taken machine (awaiting id) fuel)) =
    (Session.signs uri (trial.state.moment input).after (trial.state.moment input).effects).map
        (due, ·) ++
      signs uri (moments (Simulation.taken machine (awaiting id) left
        (Simulation.feed machine ⟨trial.state, agenda⟩ input)))
  calm : Calm (moments (Simulation.taken machine (awaiting id) left
    (Simulation.feed machine ⟨trial.state, agenda⟩ input)))

/-- Nothing happens before the next input that is planned for the operation. -/
theorem Awaits.comes {surroundings : Surroundings} {id : OperationId} {trial : Trial}
    {planned old : List (Nat × Input)} (awaits : Awaits surroundings id trial planned old)
    (left : planned ≠ []) {stage : Stage}
    (waits : trial.state.session.operations.get? id = some stage)
    (idle : ∀ other, other < id → trial.state.session.operations.get? other = none) {fuel : Nat}
    (enough : old.length < fuel)
    (calm : Calm (moments (trial.taken machine (awaiting id) fuel))) :
    ∃ due input agenda less older rest,
      Comes surroundings id fuel trial planned old due input agenda less older rest := by
  induction fuel generalizing trial old with
  | zero => omega
  | succ fuel ih =>
    have some : trial.agenda.entries ≠ [] := by
      intro none
      have empty := awaits.entries
      rw [none] at empty
      exact left (List.append_eq_nil_iff.mp (List.nil_perm.mp empty)).1
    obtain ⟨due, input, rest, next, same, ordered⟩ :=
      awaits.ordered.takes (continues id) (fun _ => rfl) some
    obtain ⟨taken, runs⟩ := @Simulation.taken_of_next _ _ machine _ _ _ _ awaits.goes next fuel
    rw [taken] at calm
    have first := calm _ (List.mem_cons_self ..)
    have later := fun entry member => calm entry (List.mem_cons_of_mem _ member)
    rcases perm_append_cons (same.symm.trans awaits.entries) with
      ⟨less, own, others⟩ | ⟨less, others, own⟩
    · refine ⟨due, input, ⟨due, rest⟩, less, old, fuel, own, ?_, rfl, rfl, runs, ?_, later⟩
      · exact ⟨awaits.surroundings, awaits.unfinished, awaits.foreground, ordered, others,
          awaits.earlier⟩
      · intro uri
        rw [taken, signs_cons]
    · obtain ⟨silent, stays, remains⟩ := awaits.skips others ordered own waits idle first
      have length := others.length_eq
      rw [List.length_cons] at length
      rw [stays] at taken runs later
      obtain ⟨due, input, agenda, fewer, older, rest, comes⟩ :=
        ih remains waits idle (by omega) later
      refine ⟨due, input, agenda, fewer, older, rest, comes.planned, comes.awaits, comes.time, ?_,
        runs.trans comes.run, ?_, comes.calm⟩
      · have counted := comes.spent
        omega
      · intro uri
        rw [taken, signs_cons, silent]
        exact comes.signs uri

end Trial

end Scenario

end LanguageServer
