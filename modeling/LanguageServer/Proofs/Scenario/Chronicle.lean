import LanguageServer.Proofs.Scenario.Trial

/-! The moments of a timed run and the events that are reported of it. Apart from results, exactly the
effects of the moments are reported, each at its time. -/

namespace LanguageServer.Scenario

open Session

/-- Whether an event is something else than a result. -/
def Event.isDeed : Event → Bool
  | .done .. => false
  | _ => true

/-- The event that an effect is, unless it is a result or is not seen. -/
def deed? : Effect → Option Event
  | .fetch _ scope => some (.fetch scope)
  | .call _ executable arguments contents => some (.call executable arguments contents)
  | .publish check diagnostics => some (.publish check.uri diagnostics check.version)
  | .message gravity text => some (.message gravity text)
  | _ => none

def Deeds (time : Nat) (effects : List Effect) : List (Nat × Event) :=
  (effects.filterMap deed?).map (time, ·)

/-- What was reported so far, apart from results. -/
def World.deeds (world : World Result) : List (Nat × Event) :=
  world.events.filter (·.2.isDeed)

theorem deeds_perform (world : World Result) (now : Nat) (effect : Effect) :
    (perform world now effect).1.deeds = world.deeds ++ ((deed? effect).map (now, ·)).toList := by
  cases effect with
  | done id result =>
    simp only [perform, World.finish, deed?]
    split
    · simp [World.deeds, World.note, Event.isDeed]
    · simp [World.deeds]
  | rest uri ticket => simp [perform, deed?]
  | queue id => simp [perform, deed?]
  | _ => simp [perform, World.deeds, World.note, World.call, deed?, Event.isDeed]

theorem deeds_performAll (world : World Result) (now : Nat) (effects : List Effect) :
    (performAll world now effects).1.deeds = world.deeds ++ Deeds now effects := by
  induction effects generalizing world with
  | nil => simp [performAll, Deeds]
  | cons effect rest ih =>
    have first := deeds_perform world now effect
    have others := ih (perform world now effect).1
    rw [first, List.append_assoc] at others
    refine others.trans (congrArg (world.deeds ++ ·) ?_)
    cases found : deed? effect <;> simp [Deeds, found]

namespace Trial

def reported (moments : List (Nat × Moment)) : List (Nat × Event) :=
  moments.flatMap fun (time, moment) => Deeds time moment.effects

theorem deeds_feed (trial : Trial) (input : Input) :
    (Simulation.feed machine trial input).state.world.deeds =
      trial.state.world.deeds ++ Deeds trial.now (trial.state.moment input).effects :=
  deeds_performAll ..

/-- A run reports the effects of the inputs that it takes. -/
theorem deeds_run (course : Simulation.Course State Input) (fuel : Nat) (trial : Trial) :
    (Simulation.runFor machine course fuel trial).state.world.deeds =
      trial.state.world.deeds ++ reported (moments (trial.taken machine course fuel)) := by
  induction fuel generalizing trial with
  | zero => exact (List.append_nil _).symm
  | succ fuel ih =>
    rw [Simulation.runFor, Simulation.taken]
    cases stops : course.stop trial.state with
    | true => exact (List.append_nil _).symm
    | false =>
      cases next : trial.agenda.next? course.prefer course.allows with
      | none => exact (List.append_nil _).symm
      | some step =>
        obtain ⟨input, agenda⟩ := step
        have fed := deeds_feed ⟨trial.state, agenda⟩ input
        refine (ih (Simulation.feed machine ⟨trial.state, agenda⟩ input)).trans ?_
        rw [fed, List.append_assoc]
        rfl

theorem deeds_act (trial : Trial) (number : Nat) (move : Move) :
    (trial.act number move.step).1.state.world.deeds =
      trial.state.world.deeds ++ reported (moments (trial.inputs move)) := by
  cases move with
  | start request =>
    have one : reported (moments (trial.inputs (.start request))) =
        Deeds trial.now (trial.state.moment (.start request)).effects := List.append_nil _
    rw [one]
    exact deeds_feed (trial.mapWorld _) (.start request)
  | pass time => exact deeds_run _ _ trial

/-- The events of a timed run, as they are reported after each move. -/
def events (trial : Trial) (number : Nat) : List Move → List (Nat × Event)
  | [] => []
  | move :: moves =>
    let (trial, _, events) := trial.step number move.step
    events ++ trial.events (number + 1) moves

/-- What is reported of a timed run, apart from results, are the effects of its moments. -/
theorem events_journal (trial : Trial) (number : Nat) (moves : List Move) :
    ((trial.events number moves).filter (·.2.isDeed)).Perm
      (reported (trial.journal number moves)) := by
  induction moves generalizing trial number with
  | nil => exact .nil
  | cons move moves ih =>
    let cleared := trial.mapWorld fun world => { world with events := [] }
    let acted : Trial := (cleared.act number move.step).1
    have made : acted.state.world.deeds = reported (moments (cleared.inputs move)) :=
      deeds_act cleared number move
    have all : (acted.settle machine).state.world.deeds =
        reported (moments (cleared.inputs move ++ acted.takenUntil acted.now)) := by
      refine (deeds_run _ _ acted).trans ?_
      rw [made, moments, moments, moments, List.map_append, reported, reported, reported,
        List.flatMap_append]
      rfl
    have sorted : (trial.step number move.step).2.2.Perm (acted.settle machine).state.world.events := by
      rw [step]
      dsimp only
      split
      · exact List.mergeSort_perm ..
      · exact .refl _
    rw [events, journal, reported, List.flatMap_append, List.filter_append]
    refine List.Perm.append ?_ (ih ..)
    exact (sorted.filter _).trans (.of_eq all)

/-! ### What is shown of a document -/

/-- What an event shows of a document. -/
def shownBy? (uri : Uri) : Nat × Event → Option (Nat × List Diagnostic × Int)
  | (time, .publish other diagnostics version) =>
    if other = uri then some (time, diagnostics, version) else none
  | _ => none

/-- What is shown of a document when something is seen of it. -/
def shownIn? : Nat × Sight → Option (Nat × List Diagnostic × Int)
  | (time, .shown diagnostics version) => some (time, diagnostics, version)
  | _ => none

theorem shown_effect (uri : Uri) (after : Session) (time : Nat) (effect : Effect) :
    (deed? effect).bind (fun event => shownBy? uri (time, event)) =
      (Effect.sight? uri after effect).bind (fun sight => shownIn? (time, sight)) := by
  cases effect with
  | publish check diagnostics =>
    by_cases mine : check.uri = uri
    · simp [deed?, shownBy?, Effect.sight?, shownIn?, mine]
    · simp [deed?, shownBy?, Effect.sight?, mine]
  | call id executable arguments contents =>
    simp only [deed?, shownBy?, Effect.sight?, Option.bind_some]
    split
    · split <;> rfl
    · rfl
  | _ => rfl

theorem shown_moment (uri : Uri) (time : Nat) (moment : Moment) :
    (Deeds time moment.effects).filterMap (shownBy? uri) =
      ((moment.sights uri).map (time, ·)).filterMap shownIn? := by
  rw [Deeds, Moment.sights, List.filterMap_map, List.filterMap_map, List.filterMap_filterMap,
    List.filterMap_filterMap]
  congr 1
  funext effect
  exact shown_effect uri moment.after time effect

/-- The events show of a document what is seen of it. -/
theorem shown_events (uri : Uri) (trial : Trial) (number : Nat) (moves : List Move) :
    ((trial.events number moves).filterMap (shownBy? uri)).Perm
      ((seen uri (trial.journal number moves)).filterMap shownIn?) := by
  -- results show nothing of a document
  have deeds : (trial.events number moves).filterMap (shownBy? uri) =
      ((trial.events number moves).filter (·.2.isDeed)).filterMap (shownBy? uri) := by
    rw [List.filterMap_filter]
    congr 1
    funext ⟨time, event⟩
    cases event <;> rfl
  have same : (reported (trial.journal number moves)).filterMap (shownBy? uri) =
      (seen uri (trial.journal number moves)).filterMap shownIn? := by
    rw [reported, seen, List.filterMap_flatMap, List.filterMap_flatMap]
    congr 1
    funext ⟨time, moment⟩
    exact shown_moment uri time moment
  rw [deeds, ← same]
  exact (events_journal trial number moves).filterMap _

end Trial

end LanguageServer.Scenario
