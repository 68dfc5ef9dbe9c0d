import LanguageServer.Proofs.Scenario.Sequel

/-! What a timed run keeps: the agenda is in order, and no two entries are for the same validation or
the same rest of a document. -/

namespace LanguageServer

namespace Session

def Input.operation? : Input → Option OperationId
  | .settings id _ => some id
  | .ended id _ => some id
  | .turn id => some id
  | .abandon id => some id
  | _ => none

/-- The rest of a document that an input ends. -/
def Input.ticket? : Input → Option Nat
  | .rested _ ticket => some ticket
  | _ => none

/-- An input that a session has reason to expect. -/
def Input.Expected (session : Session) : Input → Prop
  | .rested _ ticket => ticket < session.timers.nextTicket
  | .ended id _ => id < session.nextOperation
  | .turn id => id < session.nextOperation
  | _ => False

/-- Two inputs are not for the same validation, nor for the same rest of a document. -/
structure Input.Distinct (session : Session) (one other : Input) : Prop where
  validations : ∀ id, one.operation? = some id → other.operation? = some id →
    session.standing? id = none
  rests : ∀ ticket, one.ticket? = some ticket → other.ticket? ≠ some ticket

theorem Input.Distinct.symm {session : Session} {one other : Input}
    (distinct : Input.Distinct session one other) : Input.Distinct session other one :=
  ⟨fun id this that => distinct.validations id that this,
    fun ticket this that => distinct.rests ticket that this⟩

/-- An input for an operation is distinct from all others, except for others for the same
validation. -/
theorem Input.Distinct.of_operation {session : Session} {one other : Input} {id : OperationId}
    (names : one.operation? = some id)
    (unlike : other.operation? = some id → session.standing? id = none) :
    Input.Distinct session one other := by
  constructor
  · intro same named others
    obtain rfl := Option.some.inj (names.symm.trans named)
    exact unlike others
  · intro ticket rests
    cases one with
    | rested uri ticket => cases names
    | _ => cases rests

theorem Input.Expected.drawn {session : Session} {input : Input} (expected : input.Expected session)
    {id : OperationId} (names : input.operation? = some id) : id < session.nextOperation := by
  cases input with
  | ended other ending => exact Option.some.inj names ▸ expected
  | turn other => exact Option.some.inj names ▸ expected
  | start request => cases names
  | settings other answer => exact expected.elim
  | rested uri ticket => cases names
  | abandon other => exact expected.elim

theorem Input.Expected.ticket {session : Session} {input : Input}
    (expected : input.Expected session) {ticket : Nat} (names : input.ticket? = some ticket) :
    ticket < session.timers.nextTicket := by
  cases input with
  | rested uri other => exact Option.some.inj names ▸ expected
  | _ => cases names

theorem Input.Expected.mono {session later : Session} {input : Input}
    (expected : input.Expected session) (numbers : session.nextOperation ≤ later.nextOperation)
    (tickets : session.timers.nextTicket ≤ later.timers.nextTicket) : input.Expected later := by
  cases input with
  | ended id ending => exact Nat.lt_of_lt_of_le expected numbers
  | turn id => exact Nat.lt_of_lt_of_le expected numbers
  | rested uri ticket => exact Nat.lt_of_lt_of_le expected tickets
  | start request => exact expected.elim
  | settings id answer => exact expected.elim
  | abandon id => exact expected.elim

/-! ### What a moment leaves alone -/

namespace Moment

variable {session : Session} {host : Host} {input : Input}

/-- The validation that has its turn is new, or the input is for it. -/
theorem operation_of_turn {turn : Turn} (has : turn? ⟨session, .input host input⟩ = some turn) :
    turn.id = session.nextOperation ∨ input.operation? = some turn.id := by
  have begun : ∀ {id uri cause}, session.beginning? host id uri cause = some turn → turn.id = id := by
    intro id uri cause begins
    obtain ⟨settings, rfl, -⟩ := validate_of_beginning session begins
    rfl
  simp only [turn?, Session.turn?] at has
  split at has
  · split at has
    · cases has
    · exact .inl (begun has)
  · exact .inl (begun has)
  · split at has
    · obtain rfl := Option.some.inj has
      exact .inr rfl
    · cases has
  · split at has
    · exact .inl (begun has)
    · cases has
  · split at has
    · exact .inr (congrArg some (begun has).symm)
    · cases has
  · cases has

/-- The validation that has its turn is not one that another input is for. -/
theorem turn_other {turn : Turn} (has : turn? ⟨session, .input host input⟩ = some turn)
    {id : OperationId} (drawn : id < session.nextOperation)
    (other : input.operation? = some id → session.standing? id = none) : turn.id ≠ id := by
  rintro rfl
  have standing := turn_standing ⟨session, .input host input⟩ has
  rcases operation_of_turn has with new | names
  · exact absurd new (Nat.ne_of_lt drawn)
  · rcases standing with ⟨new, -⟩ | waits
    · exact absurd new (Nat.ne_of_lt drawn)
    · cases (other names).symm.trans waits

/-- A validation stands where it stood, unless the input is for it. -/
theorem standing_kept (numbered : session.Numbered) {id : OperationId}
    (drawn : id < session.nextOperation)
    (other : input.operation? = some id → session.standing? id = none) :
    (Moment.mk session (.input host input)).after.standing? id = session.standing? id := by
  cases shift ⟨session, .input host input⟩ numbered id with
  | stays same => exact same
  | begins undrawn uri cause waits => exact absurd drawn (Nat.not_lt_of_le undrawn)
  | turns turn has same => exact absurd same (turn_other has drawn other)
  | ends host' ending check now was gone =>
    obtain ⟨-, rfl⟩ := Impulse.input.inj now
    cases (other rfl).symm.trans (standing?_eq_checking.mpr was)
  | leaves host' now gone =>
    obtain ⟨-, rfl⟩ := Impulse.input.inj now
    exact gone.trans (other rfl).symm

end Moment

end Session

namespace Scenario

open Session

/-! ### Sound trials -/

/-- A trial in which the editor is never asked for settings. -/
structure Trial.Sound (trial : Trial) : Prop where
  ordered : trial.agenda.Ordered
  unasking : trial.state.session.Unasking
  tidy : trial.state.session.books.Tidy
  revised : trial.state.session.Revised
  synced : trial.state.session.Synced trial.state.world.locate
  keys : trial.state.session.documents.keys.Nodup
  expected : ∀ entry ∈ trial.agenda.entries, entry.2.Expected trial.state.session
  distinct : trial.agenda.entries.Pairwise (Input.Distinct trial.state.session ·.2 ·.2)

/-- An input that can come next: it is expected, or comes from outside. -/
def Input.Comes (session : Session) (input : Input) : Prop :=
  (∃ request, input = .start request) ∨ input.Expected session

theorem flatMap_fanOut (session : Session) (change : OperationId) (uris : List Uri)
    (surroundings : Surroundings) (now : Nat) :
    (session.fanOut change uris).2.flatMap (follows surroundings now) =
      (List.range' session.nextOperation uris.length).map fun id => (.after 0, .turn id) := by
  induction uris generalizing session with
  | nil => rfl
  | cons uri rest ih =>
    have further := ih (session.draw.1.suspend session.nextOperation (.ready uri (.change change)))
    rw [fanOut, List.length_cons, List.range'_succ, List.map_cons]
    exact congrArg (List.cons _) further

namespace Trial

variable {trial : Trial} {input : Input}

/-- An input that is for something else than all that is planned. -/
def Apart (trial : Trial) (input : Input) : Prop :=
  ∀ entry ∈ trial.agenda.entries, Input.Distinct trial.state.session input entry.2

/-- What follows from an input is expected, and differs from all that was planned before. -/
structure Coming (trial : Trial) (after : Session) (items : List (Agenda.When × Input)) : Prop where
  expected : ∀ item ∈ items, item.2.Expected after
  fresh : ∀ item ∈ items, ∀ entry ∈ trial.agenda.entries, Input.Distinct after item.2 entry.2
  distinct : items.Pairwise (Input.Distinct after ·.2 ·.2)

theorem coming_nil (trial : Trial) (after : Session) : Coming trial after [] := by
  refine ⟨?_, ?_, .nil⟩
  · intro item member
    cases member
  · intro item member
    cases member

theorem coming_single {after : Session} {time : Agenda.When} {item : Input}
    (expected : item.Expected after)
    (fresh : ∀ entry ∈ trial.agenda.entries, Input.Distinct after item entry.2) :
    Coming trial after [(time, item)] := by
  refine ⟨?_, ?_, List.pairwise_singleton ..⟩
  · intro other member
    obtain rfl := List.mem_singleton.mp member
    exact expected
  · intro other member
    obtain rfl := List.mem_singleton.mp member
    exact fresh

theorem following_call {id : OperationId} {executable : Path} {arguments : List String}
    {text : String}
    (calls : (trial.state.moment input).effects = [.call id executable arguments text]) :
    let answer := trial.state.world.compiler.call trial.now executable arguments text
    trial.following input = [(World.afterDelay answer.1, .ended id answer.2)] := by
  intro answer
  rw [following, calls]
  rfl

theorem timers_changed {moment : Moment} {host : Host} {uri : Uri} {text : String} {version : Int}
    (now : moment.impulse = .input host (.start (.change uri text version)))
    (present : moment.session.isOpen uri = true) :
    moment.after.timers = (moment.session.timers.schedule uri).1 := by
  obtain ⟨document, found⟩ := (Table.contains_iff ..).mp present
  have found : moment.session.books.documents.get? uri = some document := found
  rw [moment.documents_after.2, Moment.entered, now]
  simp only [entry, Books.enter, found]
  rfl

theorem coming_following (sound : trial.Sound) (comes : Input.Comes trial.state.session input)
    (apart : trial.Apart input) :
    Coming trial (trial.state.moment input).after (trial.following input) := by
  have numbered := sound.revised.numbered
  have pursued : ∀ id, input ≠ .abandon id := by
    rintro id rfl
    rcases comes with ⟨request, absurdity⟩ | expected
    · cases absurdity
    · exact expected.elim
  cases sequel_input sound.unasking trial.state.world.host numbered input pursued with
  | quiet quiet =>
    rcases quiet with mute | ⟨id, other, below, turn⟩
    · have none : trial.following input = [] := mute _ _
      exact none ▸ coming_nil ..
    · have one : trial.following input = [(.after 0, .turn id)] := turn _ _
      rw [one]
      exact coming_single below fun entry _ => .of_operation rfl fun _ => other
  | checks turn check text begins stands =>
    have drawn : turn.id < (trial.state.moment input).after.nextOperation :=
      Moment.turn_number numbered begins.has
    rw [following_call begins.calls]
    refine coming_single drawn fun entry member => .of_operation rfl ?_
    intro others
    have below := (sound.expected entry member).drawn others
    exact absurd rfl (Moment.turn_other begins.has below fun same =>
      (apart entry member).validations _ same others)
  | asks id executable arguments text host uri question now calls other drawn =>
    rw [following_call calls]
    exact coming_single drawn fun entry _ => .of_operation rfl fun _ => other
  | rests host uri text version id now present rests =>
    have one : trial.following input =
        [(.after trial.state.world.rest, .rested uri trial.state.session.timers.nextTicket)] := by
      rw [following]
      exact congrArg (List.flatMap _) rests
    rw [one]
    refine coming_single ?_ ?_
    · have timers := timers_changed now present
      exact Nat.lt_of_lt_of_eq (Nat.lt_succ_self _)
        (congrArg Debounce.Register.nextTicket timers).symm
    · intro entry member
      refine ⟨fun id names => (nomatch names), ?_⟩
      rintro ticket ⟨⟩ others
      exact absurd ((sound.expected entry member).ticket others) (Nat.lt_irrefl _)
  | fansOut id base host settings now queues result drawn =>
    have turns : trial.following input = _ :=
      (congrArg (List.flatMap _) queues).trans (flatMap_fanOut base id _ _ _)
    have number : (trial.state.moment input).after.nextOperation = _ :=
      (congrArg Session.nextOperation result).trans (number_fanOut base id _)
    rw [turns]
    refine ⟨?_, ?_, ?_⟩
    · intro item member
      obtain ⟨turn, inside, rfl⟩ := List.mem_map.mp member
      have below := (List.mem_range'_1.mp inside).2
      exact Nat.lt_of_lt_of_eq below number.symm
    · intro item member entry planned
      obtain ⟨turn, inside, rfl⟩ := List.mem_map.mp member
      refine .of_operation rfl ?_
      intro others
      have below := (sound.expected entry planned).drawn others
      have above := (List.mem_range'_1.mp inside).1
      exact absurd (Nat.le_trans drawn above) (Nat.not_le_of_lt below)
    · refine List.pairwise_map.mpr ((List.pairwise_lt_range' 1 Nat.one_pos).imp ?_)
      intro one other before
      refine .of_operation rfl ?_
      rintro ⟨⟩
      exact absurd before (Nat.lt_irrefl _)

theorem Sound.feed (sound : trial.Sound) (comes : Input.Comes trial.state.session input)
    (apart : trial.Apart input) :
    Sound (Simulation.feed machine trial input) := by
  have numbered := sound.revised.numbered
  have coming := coming_following sound comes apart
  have pushes : (trial.state.moment input).Pushes trial.state.world.locate := by
    refine ⟨?_, nofun, nofun, ?_⟩
    · intro host other now
      obtain ⟨rfl, -⟩ := Impulse.input.inj now
      rfl
    · intro host id stage now
      obtain ⟨-, rfl⟩ := Impulse.input.inj now
      rcases comes with ⟨request, absurdity⟩ | expected
      · cases absurdity
      · exact expected.elim
  have planned := Agenda.planAll_perm trial.agenda (trial.following input)
  have numbers := Moment.number_le_after (trial.state.moment input) numbered
  have tickets := Moment.nextTicket_le_after (trial.state.moment input)
  have kept : ∀ entry ∈ trial.agenda.entries, entry.2.Expected (trial.state.moment input).after :=
    fun entry member => (sound.expected entry member).mono numbers tickets
  have apartAfter : ∀ one ∈ trial.agenda.entries, ∀ other,
      Input.Distinct trial.state.session one.2 other →
        Input.Distinct (trial.state.moment input).after one.2 other := by
    intro one member other distinct
    refine ⟨?_, distinct.rests⟩
    intro id this that
    have none := distinct.validations id this that
    rw [← none]
    exact Moment.standing_kept numbered ((sound.expected one member).drawn this) fun _ => none
  refine ⟨?_, ?_, ?_, ?_, ?_, ?_, ?_, ?_⟩
  · rw [feed_agenda]
    exact sound.ordered.planAll _
  · exact Unasking.after _ pushes numbered sound.unasking
  · exact tidy_react _ (.input trial.state.world.host input) sound.tidy
  · exact sound.revised.after (trial.state.moment input)
  · have locates : (Simulation.feed machine trial input).state.world.locate =
        trial.state.world.locate := congrArg Surroundings.locate (feed_surroundings trial input)
    rw [locates]
    exact Synced.after _ pushes sound.unasking sound.tidy sound.synced
  · have documents := (Moment.documents_after (trial.state.moment input)).1
    exact documents ▸ nodup_keys_enter trial.state.session.books _ sound.keys
  · intro entry member
    rw [feed_agenda] at member
    rcases List.mem_append.mp (planned.mem_iff.mp member) with new | old
    · obtain ⟨item, inside, rfl⟩ := List.mem_map.mp new
      exact coming.expected item inside
    · exact kept entry old
  · rw [feed_agenda]
    refine (planned.pairwise_iff fun distinct => distinct.symm).mpr ?_
    refine List.pairwise_append.mpr ⟨List.pairwise_map.mpr coming.distinct, ?_, ?_⟩
    · exact sound.distinct.imp_of_mem fun one _ => apartAfter _ one _
    · intro item new entry old
      obtain ⟨item, inside, rfl⟩ := List.mem_map.mp new
      exact coming.fresh item inside entry old

theorem Sound.rest {due : Nat} {rest : List (Nat × Input)} (sound : trial.Sound)
    (entries : trial.agenda.entries = (due, input) :: rest) :
    Sound ⟨trial.state, ⟨due, rest⟩⟩ ∧ input.Expected trial.state.session ∧
      Apart ⟨trial.state, ⟨due, rest⟩⟩ input := by
  obtain ⟨ordered, unasking, tidy, revised, synced, keys, expected, distinct⟩ := sound
  rw [entries] at expected distinct
  obtain ⟨apart, distinct⟩ := List.pairwise_cons.mp distinct
  refine ⟨⟨ordered.rest entries, unasking, tidy, revised, synced, keys, ?_, distinct⟩, ?_, apart⟩
  · exact fun entry member => expected entry (List.mem_cons_of_mem _ member)
  · exact expected (due, input) (List.mem_cons_self ..)

/-! ### Runs come to their end -/

/-- How many inputs can follow from one, itself included. -/
def weight (session : Session) : Input → Nat
  | .turn id => if (session.standing? id).isSome then 3 else 1
  | .ended _ _ => 2
  | _ => 3

/-- How many inputs can follow from entries. -/
def weigh (session : Session) (entries : List (Nat × Input)) : Nat :=
  entries.foldr (fun entry sum => weight session entry.2 + sum) 0

/-- How many inputs can follow from all that are planned. -/
def burden (trial : Trial) : Nat :=
  weigh trial.state.session trial.agenda.entries

theorem weight_pos (session : Session) (input : Input) : 0 < weight session input := by
  unfold weight
  split
  · split <;> decide
  · decide
  · decide

theorem weight_le (session : Session) (input : Input) : weight session input ≤ 4 := by
  unfold weight
  split
  · split <;> decide
  · decide
  · decide

theorem burden_le_load (trial : Trial) : burden trial ≤ Simulation.load machine trial := by
  unfold burden weigh Simulation.load
  induction trial.agenda.entries with
  | nil => exact Nat.le_refl _
  | cons entry rest ih =>
    have one := weight_le trial.state.session entry.2
    simp only [List.foldr_cons, machine] at ih ⊢
    omega

/-- The turn of an operation that is no validation leads to nothing. -/
theorem mute_turn {session : Session} (host : Host) {id : OperationId}
    (other : session.standing? id = none) :
    Mute (Moment.mk session (.input host (.turn id))).effects := by
  simp only [Moment.effects, react, Session.step]
  split
  · rename_i uri cause waits
    simp [standing?, waits, Stage.standing?] at other
  · exact fun _ _ => rfl
  · exact fun _ _ => rfl

theorem weigh_perm (session : Session) {one other : List (Nat × Input)} (same : one.Perm other) :
    weigh session one = weigh session other := by
  apply same.foldr_eq'
  intro first _ second _ sum
  omega

theorem weigh_append (session : Session) (one other : List (Nat × Input)) :
    weigh session (one ++ other) = weigh session one + weigh session other := by
  induction one with
  | nil => exact (Nat.zero_add _).symm
  | cons entry rest ih =>
    simp only [weigh, List.cons_append, List.foldr_cons] at ih ⊢
    omega

theorem weigh_congr {session later : Session} {entries : List (Nat × Input)}
    (same : ∀ entry ∈ entries, weight later entry.2 = weight session entry.2) :
    weigh later entries = weigh session entries := by
  induction entries with
  | nil => rfl
  | cons entry rest ih =>
    have first := same entry (List.mem_cons_self ..)
    have others := ih fun other member => same other (List.mem_cons_of_mem _ member)
    simp only [weigh, List.foldr_cons] at others ⊢
    omega

/-- The weight of an entry stays the same, unless the input is for it. -/
theorem weight_kept (sound : trial.Sound)
    (apart : trial.Apart input)
    {entry : Nat × Input} (member : entry ∈ trial.agenda.entries) :
    weight (trial.state.moment input).after entry.2 = weight trial.state.session entry.2 := by
  obtain ⟨due, other⟩ := entry
  cases other with
  | turn id =>
    have drawn : id < trial.state.session.nextOperation := sound.expected _ member
    have kept : (trial.state.moment input).after.standing? id = trial.state.session.standing? id :=
      Moment.standing_kept sound.revised.numbered drawn fun same =>
        (apart _ member).validations id same rfl
    simp only [weight, kept]
  | _ => rfl

/-- Only a turn of an operation that is no validation weighs next to nothing. -/
theorem two_le_weight {session : Session} (host : Host) (expected : input.Expected session)
    (leads : ¬ Mute (Moment.mk session (.input host input)).effects) :
    2 ≤ weight session input := by
  cases input with
  | turn id =>
    cases stands : session.standing? id with
    | some standing => simp [weight, stands]
    | none => exact absurd (mute_turn host stands) leads
  | ended id ending => exact Nat.le_refl _
  | rested uri ticket => exact Nat.le_succ 2
  | start request => exact expected.elim
  | settings id answer => exact expected.elim
  | abandon id => exact expected.elim

/-- An input with which a validation has its turn weighs most. -/
theorem weight_of_turn {session : Session} {host : Host} {turn : Turn}
    (expected : input.Expected session)
    (has : Moment.turn? ⟨session, .input host input⟩ = some turn) : weight session input = 3 := by
  cases input with
  | turn id =>
    simp only [Moment.turn?, Session.turn?] at has
    split at has
    · rename_i waits
      simp [weight, standing?, waits, Stage.standing?]
    · cases has
  | ended id ending => cases has
  | rested uri ticket => rfl
  | start request => exact expected.elim
  | settings id answer => exact expected.elim
  | abandon id => exact expected.elim

/-- What follows from an expected input weighs less than the input. -/
theorem following_lighter (sound : trial.Sound) (expected : input.Expected trial.state.session) :
    weigh (trial.state.moment input).after
        ((trial.following input).map fun item => (item.1.due trial.now, item.2)) <
      weight trial.state.session input := by
  have numbered := sound.revised.numbered
  have pursued : ∀ id, input ≠ .abandon id := by
    rintro id rfl
    exact expected.elim
  have started : ∀ {request}, input ≠ .start request := by
    rintro request rfl
    exact expected.elim
  cases sequel_input sound.unasking trial.state.world.host numbered input pursued with
  | quiet quiet =>
    rcases quiet with mute | ⟨id, other, -, turn⟩
    · have none : trial.following input = [] := mute _ _
      rw [none]
      exact weight_pos ..
    · have one : trial.following input = [(.after 0, .turn id)] := turn _ _
      have light : weight (trial.state.moment input).after (.turn id) = 1 := by
        simp only [weight, State.moment, other]
        rfl
      have heavy : 2 ≤ weight trial.state.session input := by
        refine two_le_weight trial.state.world.host expected fun mute => ?_
        have none : trial.following input = [] := mute _ _
        cases none.symm.trans one
      rw [one]
      simp only [weigh, List.map_cons, List.map_nil, List.foldr_cons, List.foldr_nil, light]
      omega
  | checks turn check text begins stands =>
    have heavy := weight_of_turn expected begins.has
    rw [following_call begins.calls, heavy]
    exact Nat.lt_succ_self 2
  | asks id executable arguments text host uri question now calls other drawn =>
    exact absurd (Impulse.input.inj now).2 started
  | rests host uri text version id now present rests =>
    exact absurd (Impulse.input.inj now).2 started
  | fansOut id base host settings now queues result drawn =>
    exact absurd (Impulse.input.inj now).2 started

/-- Each input that is taken leaves less to do. -/
theorem burden_tick {due : Nat} {rest : List (Nat × Input)} (sound : trial.Sound)
    (entries : trial.agenda.entries = (due, input) :: rest) :
    burden (Simulation.feed machine ⟨trial.state, ⟨due, rest⟩⟩ input) < burden trial := by
  obtain ⟨reduced, expected, apart⟩ := sound.rest entries
  have lighter := following_lighter reduced expected
  have kept : weigh (trial.state.moment input).after rest = weigh trial.state.session rest :=
    weigh_congr fun _ member => weight_kept reduced apart member
  have planned := weigh_perm (trial.state.moment input).after
    (Agenda.planAll_perm ⟨due, rest⟩ (following ⟨trial.state, ⟨due, rest⟩⟩ input))
  have before : burden trial = weight trial.state.session input + weigh trial.state.session rest := by
    rw [burden, entries]
    rfl
  rw [burden, feed_agenda, feed_session, before, ← kept]
  refine Nat.lt_of_le_of_lt (Nat.le_of_eq planned) ?_
  rw [weigh_append]
  exact Nat.add_lt_add_right lighter _

end Trial

end Scenario

end LanguageServer
