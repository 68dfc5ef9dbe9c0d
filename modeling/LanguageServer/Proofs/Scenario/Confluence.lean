import LanguageServer.Proofs.Scenario.Awaiting
import LanguageServer.Proofs.Session.Frugality

/-! Changes of the configuration on a clock. What is seen of each document follows from a forecast in
which the other documents have no part, so the order of the open documents makes no difference. -/

namespace LanguageServer

namespace Session

/-- The session in which a change of the configuration waits for the general settings. -/
def inquiring (session : Session) (pushed : Option Settings) : Session :=
  { session.draw.1 with general := pushed.getD session.general, settings := ∅ }.suspend
    session.nextOperation (.reconfiguring (pushed.getD session.general))

theorem step_inquiring {session : Session} (host : Host) (pushed : Option Settings)
    (on : session.pulls = true) :
    session.step host (.start (.configure pushed)) =
      (session.inquiring pushed, [.fetch session.nextOperation none]) :=
  if_pos on

theorem step_inquired (session : Session) (host : Host) (pushed : Option Settings)
    (answer : Option Json) :
    (session.inquiring pushed).step host (.settings session.nextOperation answer) =
      (session.inquiring pushed).reconfigured host session.nextOperation
        (layered (pushed.getD session.general) answer) := by
  have waits : (session.inquiring pushed).operations.get? session.nextOperation =
      some (.reconfiguring (pushed.getD session.general)) := Table.get?_put_self ..
  simp only [step, waits]

end Session

namespace Scenario

open Session

/-! ### All validations of a change -/

/-- How many inputs are to come for validations. -/
def weigh (errands : List Errand) : Nat :=
  errands.foldr (fun errand sum => errand.wait.weight + sum) 0

theorem weigh_perm {one other : List Errand} (same : one.Perm other) : weigh one = weigh other := by
  apply same.foldr_eq'
  intro first _ second _ sum
  omega

/-- What is seen of a document is what was yet to be seen of it. -/
structure Fulfils (circumstances : Circumstances) (errands : List Errand) (uri : Uri)
    (log : List (Nat × Sign)) : Prop where
  own : ∀ errand ∈ errands, errand.wait.uri = uri → log = errand.outlook circumstances
  others : (∀ errand ∈ errands, errand.wait.uri ≠ uri) → log = []

variable {circumstances : Circumstances} {change : OperationId} {count : Nat}

theorem Fulfils.perm {one other : List Errand} {uri : Uri} {log : List (Nat × Sign)}
    (fulfils : Fulfils circumstances one uri log) (same : one.Perm other) :
    Fulfils circumstances other uri log where
  own errand member := fulfils.own errand (same.mem_iff.mpr member)
  others none := fulfils.others fun errand member => none errand (same.mem_iff.mp member)

/-- One validation goes on, and what is seen of it was to be seen. -/
theorem Fulfils.before {errand : Errand} {rest : List Errand} {result : Session × List Effect}
    {next : Option Errand} (advances : Advances circumstances change count errand rest result next)
    (distinct : ∀ other ∈ rest, errand.Distinct other) {uri : Uri} {log : List (Nat × Sign)}
    (further : Fulfils circumstances (next.toList ++ rest) uri log) :
    Fulfils circumstances (errand :: rest) uri
      ((signs uri result.1 result.2).map (errand.due, ·) ++ log) := by
  have seen := advances.signs uri
  by_cases about : errand.wait.uri = uri
  · rw [if_pos about, if_pos about] at seen
    have unlike : ∀ other ∈ rest, other.wait.uri ≠ uri := by
      intro other member same
      exact (distinct other member).2 (about.trans same.symm)
    have rest : log = (next.map (Errand.outlook circumstances)).getD [] := by
      cases next with
      | none => exact further.others unlike
      | some later =>
        exact further.own later (List.mem_cons_self ..) ((advances.same later rfl).trans about)
    rw [rest, seen]
    refine ⟨?_, ?_⟩
    · intro other member same
      rcases List.mem_cons.mp member with rfl | inside
      · rfl
      · exact absurd same (unlike other inside)
    · intro none
      exact absurd about (none errand (List.mem_cons_self ..))
  · rw [if_neg about, if_neg about, List.append_nil] at seen
    rw [seen, List.nil_append]
    refine ⟨?_, ?_⟩
    · intro other member same
      rcases List.mem_cons.mp member with rfl | inside
      · exact absurd same about
      · exact further.own other (List.mem_append_right _ inside) same
    · intro none
      apply further.others
      intro other member
      rcases List.mem_append.mp member with new | old
      · rw [advances.same other (Option.mem_toList.mp new)]
        exact about
      · exact none other (List.mem_cons_of_mem _ old)

/-- What is planned for validations is planned for one of them. -/
theorem perm_entries {errands : List Errand} {entry : Nat × Input} {less : List (Nat × Input)}
    (same : (errands.map Errand.entry).Perm (entry :: less)) :
    ∃ errand rest, errand.entry = entry ∧ errands.Perm (errand :: rest) ∧
      less.Perm (rest.map Errand.entry) := by
  obtain ⟨errand, member, rfl⟩ := List.mem_map.mp (same.mem_iff.mpr (List.mem_cons_self ..))
  obtain ⟨before, after, rfl⟩ := List.append_of_mem member
  refine ⟨errand, before ++ after, rfl, List.perm_middle, ?_⟩
  apply (List.perm_cons errand.entry).mp
  exact same.symm.trans (List.perm_middle.map Errand.entry)

theorem weigh_advances {errand : Errand} {rest : List Errand} {result : Session × List Effect}
    {next : Option Errand} (advances : Advances circumstances change count errand rest result next) :
    weigh (next.toList ++ rest) < weigh (errand :: rest) := by
  have positive : 0 < errand.wait.weight := by
    cases errand.wait <;> exact Nat.succ_pos _
  cases next with
  | none =>
    simp only [Option.toList_none, List.nil_append, weigh, List.foldr_cons]
    omega
  | some later =>
    have lighter := advances.lighter later rfl
    simp only [Option.toList_some, List.cons_append, List.nil_append, weigh, List.foldr_cons]
    omega

theorem effects_returns {session : Session} (host : Host)
    (waits : session.operations.get? change = some (.revalidating 0 count)) :
    (Moment.mk session (.input host (.turn change))).effects = [.done change (.count count)] := by
  simp only [Moment.effects, react, step, waits]

/-- All validations of a change come to their end, and then the change returns. -/
theorem Serves.run (blind : circumstances.surroundings.compiler.Blind) {fuel due : Nat}
    {trial : Trial} {errands : List Errand} {old : List (Nat × Input)}
    (serves : Serves circumstances change count trial.state.session errands)
    (awaits : trial.Awaits circumstances.surroundings change (schedule change due errands) old)
    (enough : weigh errands + old.length < fuel)
    (calm : Trial.Calm (Trial.moments (trial.taken machine (awaiting change) fuel))) :
    (Simulation.runFor machine (awaiting change) fuel trial).state.world.finished.get? change =
        some (.count count) ∧
      ∀ uri, Fulfils circumstances errands uri
        (Trial.signs uri (Trial.moments (trial.taken machine (awaiting change) fuel))) := by
  induction weight : weigh errands using Nat.strongRecOn generalizing trial errands old due fuel with
  | ind size ih =>
    have planned : schedule change due errands ≠ [] := by
      cases errands <;> simp [schedule]
    obtain ⟨time, input, agenda, less, older, left, comes⟩ :=
      awaits.comes planned serves.waits serves.idle (by omega) calm
    have spent := comes.spent
    rw [comes.run]
    cases errands with
    | nil =>
      obtain ⟨same, -⟩ := List.cons.inj (List.singleton_perm.mp comes.planned)
      obtain ⟨rfl, rfl⟩ := Prod.mk.inj same
      have done := effects_returns trial.state.world.host serves.waits
      obtain ⟨finished, nothing⟩ := comes.awaits.ends done left
      refine ⟨finished, fun uri => ⟨by simp, fun _ => ?_⟩⟩
      have unseen : (trial.state.moment (.turn change)).effects = [.done change (.count count)] :=
        done
      rw [comes.signs, nothing, unseen]
      rfl
    | cons head tail =>
      obtain ⟨errand, rest, entry, same, others⟩ := perm_entries comes.planned
      obtain ⟨rfl, rfl⟩ := Prod.mk.inj entry
      have host : trial.state.world.host = circumstances.surroundings.host :=
        congrArg Surroundings.host awaits.surroundings
      have serves := serves.perm same
      obtain ⟨next, advances⟩ := serves.advances blind
      rw [← host] at advances
      have goes := (comes.awaits.perm others).feed advances.undone
      have clock : Simulation.now ⟨trial.state, agenda⟩ = errand.due := comes.time
      rw [clock] at goes
      have planned : Trial.Awaits circumstances.surroundings change
          (Simulation.feed machine ⟨trial.state, agenda⟩ (errand.wait.input errand.id))
          (schedule change errand.due (next.toList ++ rest)) older := advances.plans ▸ goes
      have lighter := weigh_advances advances
      have whole := weigh_perm same
      obtain ⟨finished, fulfils⟩ :=
        ih _ (by omega) advances.serves planned (by omega) comes.calm rfl
      refine ⟨finished, fun uri => ?_⟩
      rw [comes.signs]
      obtain ⟨distinct, -⟩ := List.pairwise_cons.mp serves.distinct
      exact (Fulfils.before advances distinct (fulfils uri)).perm same.symm

/-! ### Fanning out -/

/-- The validations that a change starts. -/
def launched (first due : Nat) : List Uri → List Errand
  | [] => []
  | uri :: rest => ⟨first, due, .turn uri⟩ :: launched (first + 1) due rest

theorem mem_launched {first due : Nat} {uris : List Uri} {errand : Errand}
    (member : errand ∈ launched first due uris) :
    ∃ place uri, uris[place]? = some uri ∧ errand = ⟨first + place, due, .turn uri⟩ := by
  induction uris generalizing first with
  | nil => cases member
  | cons head tail ih =>
    rcases List.mem_cons.mp member with rfl | inside
    · exact ⟨0, head, rfl, rfl⟩
    · obtain ⟨place, uri, found, rfl⟩ := ih inside
      refine ⟨place + 1, uri, found, ?_⟩
      rw [Nat.add_assoc, Nat.add_comm 1]

theorem uris_launched (first due : Nat) (uris : List Uri) :
    (launched first due uris).map (·.wait.uri) = uris := by
  induction uris generalizing first with
  | nil => rfl
  | cons head tail ih => exact congrArg (List.cons head) (ih (first + 1))

theorem entries_launched (first due : Nat) (uris : List Uri) :
    (launched first due uris).map Errand.entry =
      (List.range' first uris.length).map fun id => (due, .turn id) := by
  induction uris generalizing first with
  | nil => rfl
  | cons head tail ih => exact congrArg (List.cons (due, .turn first)) (ih (first + 1))

theorem weigh_launched (first due : Nat) (uris : List Uri) :
    weigh (launched first due uris) = 3 * uris.length := by
  induction uris generalizing first with
  | nil => rfl
  | cons head tail ih =>
    have others := ih (first + 1)
    simp only [weigh, launched, List.foldr_cons, Wait.weight, List.length_cons] at others ⊢
    omega

theorem length_launched (first due : Nat) (uris : List Uri) :
    (launched first due uris).length = uris.length := by
  simpa using congrArg List.length (uris_launched first due uris)

theorem distinct_launched {first due : Nat} {uris : List Uri} (nodup : uris.Nodup) :
    (launched first due uris).Pairwise Errand.Distinct := by
  induction uris generalizing first with
  | nil => exact .nil
  | cons head tail ih =>
    obtain ⟨absent, nodup⟩ := List.nodup_cons.mp nodup
    refine List.pairwise_cons.mpr ⟨?_, ih nodup⟩
    intro errand member
    obtain ⟨place, uri, found, rfl⟩ := mem_launched member
    constructor
    · change first ≠ first + 1 + place
      omega
    · rintro rfl
      exact absent (List.mem_of_getElem? found)

/-- A session that a change has found to lead to another compiler. -/
structure Gathers (circumstances : Circumstances) (change : OperationId) (session : Session) :
    Prop where
  documents : session.documents.get? = circumstances.documents
  general : session.general = circumstances.general
  pulls : session.pulls = circumstances.pulls
  settings : ∀ uri, session.settings.get? uri = none
  idle : ∀ id, id < change → session.operations.get? id = none
  drawn : change < session.nextOperation
  keys : session.documents.keys.Nodup

theorem fanOut_records (session : Session) (change : OperationId) (uris : List Uri) :
    (session.fanOut change uris).1.documents = session.documents ∧
      (session.fanOut change uris).1.general = session.general ∧
      (session.fanOut change uris).1.pulls = session.pulls ∧
      (session.fanOut change uris).1.settings = session.settings := by
  induction uris generalizing session with
  | nil => exact ⟨rfl, rfl, rfl, rfl⟩
  | cons head tail ih =>
    exact ih (session.draw.1.suspend session.nextOperation (.ready head (.change change)))

/-- The validations of all open documents are started. -/
theorem Gathers.launches {session : Session} (gathers : Gathers circumstances change session)
    (compiler : Option Path) (due : Nat) :
    let uris := session.documents.keys
    let base := { session with compiler := compiler }.suspend change
      (.revalidating uris.length uris.length)
    Serves circumstances change uris.length (base.fanOut change uris).1
      (launched session.nextOperation due uris) := by
  intro uris base
  obtain ⟨documents, general, pulls, settings⟩ := fanOut_records base change uris
  have below : ∀ {id}, id < session.nextOperation →
      (base.fanOut change uris).1.operations.get? id = base.operations.get? id :=
    fun before => fanOut_below base change uris before
  refine ⟨?_, general.trans gathers.general, pulls.trans gathers.pulls, ?_, ?_,
    distinct_launched gathers.keys, ?_⟩
  · rw [documents]
    exact gathers.documents
  · rw [below gathers.drawn, length_launched]
    exact Table.get?_put_self ..
  · intro errand member
    obtain ⟨place, uri, found, rfl⟩ := mem_launched member
    refine ⟨Nat.lt_of_lt_of_le gathers.drawn (Nat.le_add_right ..), ?_, ?_⟩
    · have stands := fanOut_above base change uris place
      rw [found] at stands
      exact stands
    · change (base.fanOut change uris).1.settings.get? uri = none
      rw [settings]
      exact gathers.settings uri
  · intro id before
    rw [below (Nat.lt_trans before gathers.drawn)]
    exact (Table.get?_put_of_ne _ _ (Nat.ne_of_lt before)).trans (gathers.idle id before)

/-! ### A change of the configuration -/

namespace Circumstances

/-- When a change looks for the compiler, and with which settings. -/
def decision (circumstances : Circumstances) (now : Nat) : Nat × Settings :=
  if circumstances.pulls then
    let (delay, answer) := circumstances.surroundings.editor.settings now none
    (now + delay, layered circumstances.general answer)
  else
    (now, circumstances.general)

/-- How many of the open documents are validated, given the compiler of before. -/
def tally (circumstances : Circumstances) (before : Option Path) (settings : Settings)
    (isOpen : Nat) : Nat :=
  if before = circumstances.surroundings.locate settings then 0 else isOpen

/-- What is seen of a document, given the compiler of before. -/
def forecast (circumstances : Circumstances) (before : Option Path) (settings : Settings) (due : Nat)
    (uri : Uri) : List (Nat × Sign) :=
  if before = circumstances.surroundings.locate settings ∨ circumstances.documents uri = none then []
  else circumstances.validated uri due

end Circumstances

theorem mem_fanOut {session : Session} {uris : List Uri} {effect : Effect}
    (member : effect ∈ (session.fanOut change uris).2) : ∃ id, effect = .queue id := by
  induction uris generalizing session with
  | nil => cases member
  | cons head tail ih =>
    rcases List.mem_cons.mp member with rfl | inside
    · exact ⟨_, rfl⟩
    · exact ih inside

theorem signs_fanOut (session after : Session) (uris : List Uri) (uri : Uri) :
    signs uri after (session.fanOut change uris).2 = [] := by
  apply List.filterMap_eq_nil_iff.mpr
  intro effect member
  obtain ⟨id, rfl⟩ := mem_fanOut member
  rfl

theorem documents_reconfigured (host : Host) (session : Session) (settings : Settings) :
    (session.reconfigured host change settings).1.documents = session.documents := by
  unfold reconfigured
  dsimp only
  split
  · rfl
  · split
    · rfl
    · exact (fanOut_records ..).1

theorem reconfigured_other {host : Host} {session : Session} {settings : Settings}
    (differs : session.compiler ≠ host.locate settings) (some : session.documents.keys ≠ []) :
    session.reconfigured host change settings =
      ({ session with compiler := host.locate settings }.suspend change
        (.revalidating session.documents.keys.length session.documents.keys.length)).fanOut change
          session.documents.keys := by
  simp [reconfigured, differs, some]

theorem schedule_launched {first due : Nat} {uris : List Uri} (some : uris ≠ []) :
    schedule change due (launched first due uris) =
      (List.range' first uris.length).map fun id => (due, .turn id) := by
  rw [← entries_launched]
  cases uris with
  | nil => exact absurd rfl some
  | cons head tail => rfl

/-- What has been seen of the documents after a change is what was forecast. -/
theorem Fulfils.forecast {session : Session} {first due : Nat} {uri : Uri} {log : List (Nat × Sign)}
    {settings : Settings} {before : Option Path}
    (fulfils : Fulfils circumstances (launched first due session.documents.keys) uri log)
    (documents : session.documents.get? = circumstances.documents)
    (differs : before ≠ circumstances.surroundings.locate settings) :
    log = circumstances.forecast before settings due uri := by
  have among : ∀ errand ∈ launched first due session.documents.keys,
      circumstances.documents errand.wait.uri ≠ none := by
    intro errand member
    have listed : errand.wait.uri ∈ session.documents.keys := by
      rw [← uris_launched first due session.documents.keys]
      exact List.mem_map_of_mem member
    obtain ⟨document, found⟩ := (Table.contains_iff ..).mp ((Table.mem_keys ..).mp listed)
    rw [← documents, found]
    exact Option.some_ne_none document
  rw [Circumstances.forecast]
  cases present : circumstances.documents uri with
  | none =>
    rw [if_pos (.inr rfl)]
    apply fulfils.others
    rintro errand member rfl
    exact among errand member present
  | some document =>
    rw [if_neg (by simp [differs])]
    have listed : uri ∈ (launched first due session.documents.keys).map (·.wait.uri) := by
      rw [uris_launched, Table.mem_keys, Table.contains_iff]
      exact ⟨document, (congrFun documents uri).trans present⟩
    obtain ⟨errand, member, about⟩ := List.mem_map.mp listed
    rw [fulfils.own errand member about]
    obtain ⟨place, other, -, rfl⟩ := mem_launched member
    obtain rfl : other = uri := about
    rfl

section Change

variable {base : Session} {trial : Trial} {input : Input} {old : List (Nat × Input)}
  {settings : Settings} (gathers : Gathers circumstances change base)
  (awaits : trial.Awaits circumstances.surroundings change [] old)
  (reacts : trial.state.session.step trial.state.world.host input =
    base.reconfigured circumstances.surroundings.host change settings)

/-- What a run shows of a document from an input on. -/
def shownFrom (change : OperationId) (trial : Trial) (input : Input) (fuel : Nat) (uri : Uri) :
    List (Nat × Sign) :=
  Trial.signs uri (Trial.moments ((trial.now, trial.state, input) ::
    Simulation.taken machine (awaiting change) fuel (Simulation.feed machine trial input)))

include awaits in
theorem settles (done : (trial.state.moment input).effects = [.done change (.count 0)])
    (fuel : Nat) :
    (Simulation.runFor machine (awaiting change) fuel
        (Simulation.feed machine trial input)).state.world.finished.get? change = some (.count 0) ∧
      ∀ uri, shownFrom change trial input fuel uri = [] := by
  obtain ⟨finished, nothing⟩ := awaits.ends done fuel
  refine ⟨finished, fun uri => ?_⟩
  rw [shownFrom, nothing, Trial.signs_cons, done]
  rfl

include gathers awaits reacts

/-- A change that leads to another compiler starts a validation of each open document. -/
theorem spreads (differs : base.compiler ≠ circumstances.surroundings.host.locate settings)
    (some : base.documents.keys ≠ []) :
    let after := Simulation.feed machine trial input
    let errands := launched base.nextOperation trial.now base.documents.keys
    Serves circumstances change base.documents.keys.length after.state.session errands ∧
      Trial.Awaits circumstances.surroundings change after (schedule change trial.now errands) old ∧
      ∀ uri, signs uri (trial.state.moment input).after (trial.state.moment input).effects = [] := by
  intro after errands
  have spread := reacts.trans (reconfigured_other differs some)
  have effects : (trial.state.moment input).effects = _ := congrArg Prod.snd spread
  have session : after.state.session = _ := congrArg Prod.fst spread
  refine ⟨?_, ?_, ?_⟩
  · rw [session]
    exact gathers.launches _ trial.now
  · have undone : ∀ result, .done change result ∉ (trial.state.moment input).effects := by
      intro result member
      rw [effects] at member
      obtain ⟨id, absurdity⟩ := mem_fanOut member
      cases absurdity
    have planned := awaits.feed undone
    rw [effects, flatMap_fanOut, List.append_nil, List.map_map] at planned
    rw [schedule_launched some]
    exact planned
  · intro uri
    rw [effects]
    exact signs_fanOut ..

/-- A change that looks for the compiler comes to its end as it was forecast. -/
theorem reconfigures (blind : circumstances.surroundings.compiler.Blind) {fuel : Nat}
    (enough : 0 < base.documents.size →
      (Simulation.feed machine trial input).agenda.entries.length =
        base.documents.size + old.length → 3 * base.documents.size + old.length < fuel)
    (calm : Trial.Calm (Trial.moments
      (Simulation.taken machine (awaiting change) fuel (Simulation.feed machine trial input)))) :
    (Simulation.runFor machine (awaiting change) fuel
        (Simulation.feed machine trial input)).state.world.finished.get? change =
        some (.count (circumstances.tally base.compiler settings base.documents.size)) ∧
      ∀ uri, shownFrom change trial input fuel uri =
        circumstances.forecast base.compiler settings trial.now uri := by
  have moment : (trial.state.moment input).effects =
      (base.reconfigured circumstances.surroundings.host change settings).2 :=
    congrArg Prod.snd reacts
  by_cases same : base.compiler = circumstances.surroundings.locate settings
  · have found : base.compiler = circumstances.surroundings.host.locate settings := same
    simp only [Circumstances.tally, Circumstances.forecast, same, true_or, if_true]
    exact settles awaits (by simp [moment, reconfigured, found]) fuel
  have differs : base.compiler ≠ circumstances.surroundings.host.locate settings := same
  by_cases closed : base.documents.keys = []
  · have missing : ∀ uri, circumstances.documents uri = none := by
      intro uri
      rw [← gathers.documents]
      exact Table.get?_of_isEmpty (by simpa [Table.keys] using closed) uri
    have empty : base.documents.size = 0 := by simpa [Table.keys, Table.size] using closed
    simp only [Circumstances.tally, Circumstances.forecast, same, missing, or_true, if_true, if_false,
      empty]
    exact settles awaits (by simp [moment, reconfigured, differs, closed]) fuel
  obtain ⟨serves, planned, unseen⟩ := spreads gathers awaits reacts differs closed
  have size : base.documents.keys.length = base.documents.size := List.length_map ..
  have length := planned.entries.length_eq
  rw [List.length_append, schedule_launched closed, List.length_map, List.length_range', size]
    at length
  have positive : 0 < base.documents.size := size ▸ List.length_pos_iff.mpr closed
  have fuelled := enough positive length
  obtain ⟨finished, fulfils⟩ := serves.run blind planned (by rw [weigh_launched, size]; exact fuelled)
    calm
  refine ⟨?_, fun uri => ?_⟩
  · rw [finished, Circumstances.tally, if_neg same, size]
  · rw [shownFrom, Trial.signs_cons, unseen]
    exact (fulfils uri).forecast gathers.documents same

end Change

namespace Trial

/-- What a change of the configuration depends on. -/
def outset (trial : Trial) (pushed : Option Settings) : Circumstances where
  surroundings := trial.state.world.toSurroundings
  documents := trial.state.session.documents.get?
  general := pushed.getD trial.state.session.general
  pulls := trial.state.session.pulls

/-- A trial whose agenda and records are about operations that have been started. -/
structure Regular (trial : Trial) : Prop where
  ordered : trial.agenda.Ordered
  started : ∀ entry ∈ trial.agenda.entries, ∀ id, entry.2.operation? = some id →
    id < trial.state.session.nextOperation
  unfinished : ∀ id, trial.state.session.nextOperation ≤ id →
    trial.state.world.finished.get? id = none
  foreground : ∀ id, trial.state.session.nextOperation ≤ id →
    trial.state.world.background.get? id = none

theorem Regular.awaits {trial : Trial} (regular : trial.Regular) :
    trial.Awaits trial.state.world.toSurroundings trial.state.session.nextOperation []
      trial.agenda.entries where
  surroundings := rfl
  unfinished := regular.unfinished _ (Nat.le_refl _)
  foreground := regular.foreground _ (Nat.le_refl _)
  ordered := regular.ordered
  entries := .refl _
  earlier := regular.started

theorem load_eq (trial : Trial) :
    trial.load machine =
      trial.agenda.entries.length * (4 * trial.state.session.documents.size + 4) := by
  unfold Simulation.load
  induction trial.agenda.entries with
  | nil => exact (Nat.zero_mul _).symm
  | cons entry rest ih =>
    rw [List.foldr_cons, ih, List.length_cons, Nat.add_comm, Nat.add_mul, Nat.one_mul]
    rfl

/-- A change of the configuration returns as many documents as it should, and what is seen of each
document is what was forecast. -/
def Configures (trial : Trial) (pushed : Option Settings) : Prop :=
  let outset := trial.outset pushed
  let decision := outset.decision trial.now
  (trial.await (.configure pushed)).2 =
      some (.count (outset.tally trial.state.session.compiler decision.2
        trial.state.session.documents.size)) ∧
    ∀ uri, signs uri (trial.awaited (.configure pushed)) =
      outset.forecast trial.state.session.compiler decision.2 decision.1 uri

section Configure

variable {trial : Trial} {pushed : Option Settings} (regular : trial.Regular)
  (keys : trial.state.session.documents.keys.Nodup)
  (calm : Calm (trial.awaited (.configure pushed)))

include calm in
theorem unoccupied (id : OperationId) : trial.state.session.operations.get? id = none := by
  apply calm _ (List.mem_cons_self ..)
  exact ⟨trial.state.world.host, .inl ⟨.configure pushed, rfl⟩⟩

include regular keys calm

theorem configures_pushed (blind : trial.state.world.compiler.Blind)
    (off : trial.state.session.pulls = false) : trial.Configures pushed := by
  have decided : (trial.outset pushed).decision trial.now =
      (trial.now, pushed.getD trial.state.session.general) := by
    rw [Circumstances.decision, outset, off]
    rfl
  rw [Configures, decided]
  let session := trial.state.session
  let base : Session :=
    { session.draw.1 with general := pushed.getD session.general, settings := ∅ }
  have gathers : Gathers (trial.outset pushed) session.nextOperation base :=
    ⟨rfl, rfl, rfl, fun _ => rfl, fun id _ => unoccupied calm id, Nat.lt_succ_self _, keys⟩
  have reacts : session.step trial.state.world.host (.start (.configure pushed)) =
      base.reconfigured trial.state.world.host session.nextOperation
        (pushed.getD session.general) :=
    @Moment.react_configured ⟨session, .input trial.state.world.host (.start (.configure pushed))⟩ _ _
      rfl off
  refine reconfigures gathers regular.awaits reacts blind ?_ ?_
  · intro positive length
    have documents :
        (Simulation.feed machine trial (.start (.configure pushed))).state.session.documents =
          base.documents :=
      (congrArg (·.1.documents) reacts).trans (documents_reconfigured ..)
    rw [load_eq, documents, length]
    have more : (base.documents.size + trial.agenda.entries.length) * 4 ≤
        (base.documents.size + trial.agenda.entries.length) * (4 * base.documents.size + 4) :=
      Nat.mul_le_mul_left _ (Nat.le_add_left ..)
    omega
  · exact fun entry member => calm entry (List.mem_cons_of_mem _ member)

omit keys calm in
/-- The answer of the editor is all that the change waits for. -/
theorem inquires (on : trial.state.session.pulls = true) :
    let answer := trial.state.world.editor.settings trial.now none
    Awaits trial.state.world.toSurroundings trial.state.session.nextOperation
      (Simulation.feed machine trial (.start (.configure pushed)))
      [(trial.now + answer.1, .settings trial.state.session.nextOperation answer.2)]
      trial.agenda.entries := by
  intro answer
  have effects : (trial.state.moment (.start (.configure pushed))).effects =
      [.fetch trial.state.session.nextOperation none] :=
    congrArg Prod.snd (step_inquiring trial.state.world.host pushed on)
  have undone : ∀ result, .done trial.state.session.nextOperation result ∉
      (trial.state.moment (.start (.configure pushed))).effects := by
    simp [effects]
  have started := regular.awaits.feed undone
  rw [effects] at started
  have due := due_afterDelay trial.now answer.1
  exact due ▸ started

omit regular in
theorem gathers_inquiring :
    Gathers (trial.outset pushed) trial.state.session.nextOperation
      (trial.state.session.inquiring pushed) := by
  refine ⟨rfl, rfl, rfl, fun _ => rfl, ?_, Nat.lt_succ_self _, keys⟩
  intro id before
  exact (Table.get?_put_of_ne _ _ (Nat.ne_of_lt before)).trans (unoccupied calm id)

omit keys calm in
/-- The run can take all that was planned, the answer of the editor, and what the validations of all
open documents need. -/
theorem load_inquires (on : trial.state.session.pulls = true) :
    trial.agenda.entries.length + 3 * trial.state.session.documents.size + 1 <
      Simulation.load machine (Simulation.feed machine trial (.start (.configure pushed))) := by
  have documents :
      (Simulation.feed machine trial (.start (.configure pushed))).state.session.documents =
        trial.state.session.documents :=
    congrArg (·.1.documents) (step_inquiring trial.state.world.host pushed on)
  have length := (@inquires trial pushed regular on).entries.length_eq
  rw [List.length_append, List.length_singleton] at length
  have more : trial.agenda.entries.length * 4 ≤
      trial.agenda.entries.length * (4 * trial.state.session.documents.size + 4) :=
    Nat.mul_le_mul_left _ (Nat.le_add_left ..)
  rw [load_eq, length, documents, Nat.add_mul]
  omega

theorem configures_pulled (blind : trial.state.world.compiler.Blind)
    (on : trial.state.session.pulls = true) : trial.Configures pushed := by
  let change := trial.state.session.nextOperation
  let base := trial.state.session.inquiring pushed
  let answer := trial.state.world.editor.settings trial.now none
  let begun := Simulation.feed machine trial (.start (.configure pushed))
  have reacts := step_inquiring trial.state.world.host pushed on
  have session : begun.state.session = base := congrArg Prod.fst reacts
  have gathers : Gathers (trial.outset pushed) change base := gathers_inquiring keys calm
  have started := @inquires trial pushed regular on
  have later : Calm (moments (begun.taken machine (awaiting change) (begun.load machine))) :=
    fun entry member => calm entry (List.mem_cons_of_mem _ member)
  have enough : trial.agenda.entries.length + 3 * base.documents.size + 1 < begun.load machine :=
    load_inquires regular on
  have waits : begun.state.session.operations.get? change =
      some (.reconfiguring (pushed.getD trial.state.session.general)) := by
    rw [session]
    exact Table.get?_put_self ..
  obtain ⟨time, input, agenda, less, older, left, comes⟩ :=
    started.comes (List.cons_ne_nil _ _) waits (session.symm ▸ gathers.idle) (by omega) later
  obtain ⟨same, rfl⟩ := List.cons.inj (List.singleton_perm.mp comes.planned)
  obtain ⟨rfl, rfl⟩ := Prod.mk.inj same
  have host : begun.state.world.host = (trial.outset pushed).surroundings.host :=
    congrArg Surroundings.host (feed_surroundings trial (.start (.configure pushed)))
  have answered : begun.state.session.step begun.state.world.host (.settings change answer.2) =
      base.reconfigured (trial.outset pushed).surroundings.host change
        (layered (trial.outset pushed).general answer.2) := by
    rw [session, host]
    exact step_inquired ..
  have fuelled : 3 * base.documents.size + older.length < left := by
    have spent : begun.load machine + older.length = left + 1 + trial.agenda.entries.length :=
      comes.spent
    omega
  obtain ⟨finished, seen⟩ :=
    reconfigures gathers comes.awaits answered blind (fun _ _ => fuelled) comes.calm
  have decided : (trial.outset pushed).decision trial.now =
      (trial.now + answer.1, layered (trial.outset pushed).general answer.2) := if_pos on
  rw [Configures, decided]
  refine ⟨?_, fun uri => ?_⟩
  · exact (congrArg (·.state.world.finished.get? change) comes.run).trans finished
  · have clock : agenda.now = trial.now + answer.1 := comes.time
    calc signs uri (trial.awaited (.configure pushed))
      _ = signs uri (moments (begun.taken machine (awaiting change) (begun.load machine))) := by
        rw [awaited, signs_cons, State.moment, Moment.effects, react, reacts]
        rfl
      _ = shownFrom change ⟨begun.state, agenda⟩ (.settings change answer.2) left uri := by
        rw [shownFrom, signs_cons, Simulation.now, clock]
        exact comes.signs uri
      _ = (trial.outset pushed).forecast base.compiler
          (layered (trial.outset pushed).general answer.2) (trial.now + answer.1) uri := by
        rw [seen, Simulation.now, clock]

theorem configures (blind : trial.state.world.compiler.Blind) : trial.Configures pushed := by
  cases pulled : trial.state.session.pulls with
  | false => exact configures_pushed regular keys calm blind pulled
  | true => exact configures_pulled regular keys calm blind pulled

end Configure

/-! ### The order of the documents -/

/-- The trial with the open documents in another order. -/
def arranged (trial : Trial) (documents : Table Uri Document) : Trial :=
  trial.mapSession fun session => { session with documents := documents }

theorem Regular.arranged {trial : Trial} (regular : trial.Regular) (documents : Table Uri Document) :
    (trial.arranged documents).Regular :=
  ⟨regular.ordered, regular.started, regular.unfinished, regular.foreground⟩

/-- Whatever the order of the open documents, a change goes as it was forecast for the trial. -/
theorem configures_arranged {trial : Trial} {pushed : Option Settings} (regular : trial.Regular)
    (keys : trial.state.session.documents.keys.Nodup) (blind : trial.state.world.compiler.Blind)
    {documents : Table Uri Document}
    (same : documents.entries.Perm trial.state.session.documents.entries)
    (calm : Calm ((trial.arranged documents).awaited (.configure pushed))) :
    let decision := (trial.outset pushed).decision trial.now
    ((trial.arranged documents).await (.configure pushed)).2 =
        some (.count ((trial.outset pushed).tally trial.state.session.compiler decision.2
          trial.state.session.documents.size)) ∧
      ∀ uri, signs uri ((trial.arranged documents).awaited (.configure pushed)) =
        (trial.outset pushed).forecast trial.state.session.compiler decision.2 decision.1 uri := by
  intro decision
  have outset : (trial.arranged documents).outset pushed = trial.outset pushed := by
    have holds := Table.get?_perm same keys
    simp only [Trial.outset, Trial.arranged, Trial.mapSession, holds]
  have size : documents.size = trial.state.session.documents.size := same.length_eq
  have distinct : documents.keys.Nodup := (same.map _).nodup_iff.mpr keys
  have configures := configures (regular.arranged documents) distinct calm blind
  rw [Configures, outset] at configures
  exact size ▸ configures

end Trial

/-- The order of the open documents makes no difference to a change of the configuration. If no other
operation is under way meanwhile, and checks do not depend on the names of files, the change returns
the same number in any order, and the same is seen of each document at the same times: all of them
are validated, unless the compiler is the one of before. -/
theorem configure_any_order (general : Settings) (impulses : List Impulse) (trial : Trial)
    (reached : trial.state.session = (fresh general).after impulses) (regular : trial.Regular)
    (blind : trial.state.world.compiler.Blind) (pushed : Option Settings)
    (one other : Table Uri Document)
    (first : one.entries.Perm trial.state.session.documents.entries)
    (second : other.entries.Perm trial.state.session.documents.entries)
    (calm : Trial.Calm ((trial.arranged one).awaited (.configure pushed)))
    (still : Trial.Calm ((trial.arranged other).awaited (.configure pushed))) :
    let outset := trial.outset pushed
    let decision := outset.decision trial.now
    ((trial.arranged one).await (.configure pushed)).2 =
        ((trial.arranged other).await (.configure pushed)).2 ∧
      ((trial.arranged one).await (.configure pushed)).2 =
        some (.count (outset.tally trial.state.session.compiler decision.2
          trial.state.session.documents.size)) ∧
      ∀ uri, Trial.signs uri ((trial.arranged one).awaited (.configure pushed)) =
          Trial.signs uri ((trial.arranged other).awaited (.configure pushed)) ∧
        Trial.signs uri ((trial.arranged one).awaited (.configure pushed)) =
          outset.forecast trial.state.session.compiler decision.2 decision.1 uri := by
  intro outset decision
  have keys : trial.state.session.documents.keys.Nodup := reached ▸ nodup_keys_run general impulses
  obtain ⟨counted, seen⟩ := Trial.configures_arranged regular keys blind first calm
  obtain ⟨countedToo, seenToo⟩ := Trial.configures_arranged regular keys blind second still
  refine ⟨counted.trans countedToo.symm, counted, fun uri => ⟨?_, seen uri⟩⟩
  exact (seen uri).trans (seenToo uri).symm

theorem Trial.calm_of_all {moments : List (Nat × Moment)}
    (checked : (moments.map (·.2)).all Moment.isCalm = true) : Calm moments := by
  intro entry member
  exact separate_of_all checked _ (List.mem_map_of_mem member)

/-- Two documents are open. An answer for an operation of before is still to come, and one of the
documents has been changed. -/
def changedPair : Trial where
  state :=
    { session :=
        let host : Host := ⟨Settings.compiler?, fun _ => some "/tmp/a.volta"⟩
        (fresh ⟨100, some "/g"⟩).after
          [.support true, .input host (.start (.open ⟨"file:///a"⟩ "let" 1)),
            .input host (.settings 0 none), .input host (.ended 0 (.ok ⟨"", "", some 0⟩)),
            .input host (.start (.open ⟨"file:///b"⟩ "fn" 4)), .input host (.settings 1 none),
            .input host (.ended 1 (.ok ⟨"", "", some 0⟩)),
            .input host (.start (.change ⟨"file:///b"⟩ "fn b" 5))]
      world :=
        { compiler := ⟨fun now _ _ contents => (now % 5 + contents.length, .ok ⟨"", "", some 0⟩)⟩
          editor :=
            { settings := fun now scope =>
                (now % 3 + 1, if scope = some ⟨"file:///b"⟩ then none
                  else some (.object [("compilerPath", .string "/h")]))
              delay := 0
              manner := .answers } } }
  agenda :=
    { now := 10
      entries := [(12, .ended 1 (.ok ⟨"", "", some 0⟩)), (1010, .rested ⟨"file:///b"⟩ 0)] }

theorem regular_changedPair : changedPair.Regular where
  ordered := ⟨by decide, by decide⟩
  started := by
    intro entry member id names
    have drawn : changedPair.state.session.nextOperation = 3 := by decide +kernel
    rw [drawn]
    rcases List.mem_cons.mp member with rfl | member
    · obtain rfl := Option.some.inj names
      decide
    · obtain rfl := List.mem_singleton.mp member
      cases names
  unfinished _ _ := rfl
  foreground _ _ := rfl

/-- The general settings lead to another compiler, and those of one document to a third. -/
theorem configure_any_order_changedPair :
    let one : Table Uri Document :=
      ⟨[(⟨"file:///a"⟩, ⟨"let", 1⟩), (⟨"file:///b"⟩, ⟨"fn b", 5⟩)]⟩
    let other : Table Uri Document :=
      ⟨[(⟨"file:///b"⟩, ⟨"fn b", 5⟩), (⟨"file:///a"⟩, ⟨"let", 1⟩)]⟩
    let request := Request.configure (some ⟨50, some "/p"⟩)
    changedPair.Regular ∧ changedPair.state.world.compiler.Blind ∧
      Trial.Calm ((changedPair.arranged one).awaited request) ∧
      Trial.Calm ((changedPair.arranged other).awaited request) ∧
      ((changedPair.arranged one).await request).2 = some (.count 2) ∧
      ((changedPair.arranged other).await request).2 = some (.count 2) ∧
      ∀ uri, Trial.signs uri ((changedPair.arranged one).awaited request) =
        Trial.signs uri ((changedPair.arranged other).awaited request) := by
  intro one other request
  have blind : changedPair.state.world.compiler.Blind := fun _ _ _ _ _ => rfl
  have entries : changedPair.state.session.documents.entries = one.entries := by decide +kernel
  have calm : Trial.Calm ((changedPair.arranged one).awaited request) :=
    Trial.calm_of_all (by decide +kernel)
  have still : Trial.Calm ((changedPair.arranged other).awaited request) :=
    Trial.calm_of_all (by decide +kernel)
  obtain ⟨same, counted, seen⟩ := configure_any_order _ _ changedPair rfl regular_changedPair blind
    (some ⟨50, some "/p"⟩) one other (entries ▸ .refl _) (entries ▸ .swap ..) calm still
  have two : (changedPair.outset (some ⟨50, some "/p"⟩)).tally changedPair.state.session.compiler
      ((changedPair.outset (some ⟨50, some "/p"⟩)).decision changedPair.now).2
      changedPair.state.session.documents.size = 2 := by
    decide +kernel
  rw [two] at counted
  exact ⟨regular_changedPair, blind, calm, still, counted, same.symm.trans counted,
    fun uri => (seen uri).1⟩

end Scenario

end LanguageServer
