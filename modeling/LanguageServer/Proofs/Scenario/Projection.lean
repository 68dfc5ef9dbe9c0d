import LanguageServer.Proofs.Scenario.Portrait

/-! How the portrait of a document changes with a trial. Inputs that mean nothing for the document
leave its portrait alone, and all others change it in a way that only depends on the portrait. -/

namespace LanguageServer.Scenario.Trial

open Session

variable {trial : Trial} {input : Input} {uri : Uri}

/-- What follows from an input for a document. -/
def tokens (uri : Uri) (trial : Trial) (input : Input) : List (Agenda.When × Token) :=
  (trial.following input).filterMap fun item =>
    (token? (trial.state.moment input).after uri item.2).map (item.1, ·)

/-- What an input makes of the portrait of a document, and what is seen of the document, for some file
that the compiler is called with. -/
def Becomes (uri : Uri) (trial : Trial) (input : Input)
    (result : Checker → Portrait × List Sight) : Prop :=
  ∃ file, (portrait uri (Simulation.feed machine trial input), (trial.state.moment input).sights uri) =
    result (trial.state.world.answer trial.now file)

/-- The portrait after an input: what was planned, as far as it has kept its meaning, and what follows
from the input. -/
theorem portrait_feed (sound : trial.Sound)
    (apart : trial.Apart input)
    {rests calls : Bool}
    (dropsRests : DropsRests uri trial.state.session (trial.state.moment input).after rests)
    (dropsCalls : DropsCalls uri trial.state.session (trial.state.moment input).after calls) :
    portrait uri (Simulation.feed machine trial input) =
      ⟨(trial.state.moment input).after.documents.get? uri,
        (trial.state.moment input).after.general,
        (Agenda.planAll ⟨trial.now, ((trial.portrait uri).shed rests calls).entries⟩
          (trial.tokens uri input)).entries⟩ := by
  have kept : Agenda.selected (token? (trial.state.moment input).after uri) trial.agenda.entries =
      ((trial.portrait uri).shed rests calls).entries :=
    Agenda.selected_filter _ fun entry => token?_after sound apart dropsRests dropsCalls
  have entries := Agenda.selected_planAll (token? (trial.state.moment input).after uri)
    sound.ordered (trial.following input)
  rw [kept, ← feed_agenda] at entries
  rw [portrait, feed_session, entries]
  rfl

/-! ### What follows for a document -/

theorem tokens_of_quiet (quiet : Quiet (trial.state.moment input).after
    (trial.state.moment input).effects) : trial.tokens uri input = [] := by
  rcases quiet with mute | ⟨id, other, -, turn⟩
  · have none : trial.following input = [] := mute _ _
    rw [tokens, none]
    rfl
  · have one : trial.following input = [(.after 0, .turn id)] := turn _ _
    rw [tokens, one]
    simp [token?, other]

theorem tokens_of_call {id : OperationId} {executable : Path} {arguments : List String}
    {text : String} {check : Check}
    (calls : (trial.state.moment input).effects = [.call id executable arguments text])
    (stands : (trial.state.moment input).after.standing? id = some (.checking check))
    (latest : (trial.state.moment input).after.latest.get? check.uri = some check.revision) :
    let answer := trial.state.world.compiler.call trial.now executable arguments text
    trial.tokens uri input =
      if check.uri = uri then
        [(World.afterDelay answer.1, .finish check.version check.limit answer.2)]
      else [] := by
  intro answer
  rw [tokens, following_call calls]
  by_cases same : check.uri = uri
  · subst same
    simp [token?, stands, latest, answer]
  · simp [token?, stands, same]

/-! ### What is seen of a document -/

theorem sights_of_call {moment : Moment} {id : OperationId} {executable : Path}
    {arguments : List String} {text : String} {check : Check}
    (calls : moment.effects = [.call id executable arguments text])
    (stands : moment.after.standing? id = some (.checking check)) :
    moment.sights uri =
      if check.uri = uri then [.called (check.cause = .rest) executable text] else [] := by
  rw [Moment.sights, calls]
  by_cases same : check.uri = uri
  · simp [Effect.sight?, stands, same]
  · simp [Effect.sight?, stands, same]

/-- If nobody is called, only publications are seen. -/
theorem sights_of_idle {moment : Moment} (idle : Idle moment.effects) :
    moment.sights uri = (moment.published.filter (·.check.uri = uri)).map
      fun publication => .shown publication.diagnostics publication.check.version := by
  unfold Moment.sights Moment.published
  generalize moment.effects = effects at idle
  induction effects with
  | nil => rfl
  | cons effect rest ih =>
    obtain ⟨silent, idle⟩ := idle_cons.mp idle
    have others := ih idle
    cases effect with
    | publish check diagnostics =>
      by_cases same : check.uri = uri
      · simp [Effect.sight?, publications, Effect.publication?, same] at others ⊢
        exact others
      · simp [Effect.sight?, publications, Effect.publication?, same] at others ⊢
        exact others
    | call id executable arguments contents => exact absurd trivial silent
    | fetch id scope => exact absurd trivial silent
    | _ => exact others

theorem idle_of_quiet {after : Session} {effects : List Effect} (quiet : Quiet after effects) :
    Idle effects := by
  intro effect member asks
  -- whatever is asked for follows
  have follow : ∃ item ∈ effects.flatMap (follows {} 0), ∀ id, item.2 ≠ .turn id := by
    cases effect with
    | call id executable arguments contents =>
      exact ⟨_, List.mem_flatMap.mpr ⟨_, member, List.mem_singleton_self _⟩, fun _ => nofun⟩
    | fetch id scope =>
      exact ⟨_, List.mem_flatMap.mpr ⟨_, member, List.mem_singleton_self _⟩, fun _ => nofun⟩
    | _ => exact asks.elim
  obtain ⟨item, inside, other⟩ := follow
  rcases quiet with mute | ⟨id, -, -, turn⟩
  · rw [mute] at inside
    cases inside
  · rw [turn] at inside
    obtain rfl := List.mem_singleton.mp inside
    exact other id rfl

/-! ### Validations -/

theorem survives_and (rests : Bool) (token : Token) :
    (token.survives rests false && token.survives false true) = token.survives rests true := by
  cases token <;> simp [Token.survives]

/-- What loses its meaning together, can also do so in turn. -/
theorem shed_in_turn (rests : Bool) (entries : List (Nat × Token)) :
    (entries.filter fun entry => entry.2.survives rests false).filter
        (fun entry => entry.2.survives false true) =
      entries.filter fun entry => entry.2.survives rests true := by
  rw [List.filter_filter]
  congr 1
  funext entry
  rw [Bool.and_comm, survives_and]

variable {turn : Turn}

/-- A document that is called for again drops the calls of before. -/
theorem dropsCalls_of_begins {moment : Moment} {check : Check} {text : String}
    (begins : moment.Begins turn check text) :
    DropsCalls check.uri moment.session moment.after true := by
  obtain ⟨next, latest, -⟩ := Moment.after_draw begins.draws
  intro revision drawn again
  have equal := Option.some.inj (latest.symm.trans again)
  omega

/-- A document for which nobody calls keeps its calls. -/
theorem dropsCalls_of_unturned {moment : Moment} (unclosed : ¬ moment.Closes uri)
    (unturned : ∀ turn, moment.turn? = some turn → turn.uri = uri →
      moment.after.revision = moment.session.revision) :
    DropsCalls uri moment.session moment.after false := by
  apply Moment.latest_undisturbed _ unclosed
  rintro ⟨id, revision, ⟨turn, has, -, same⟩, newer, rfl⟩
  rw [unturned turn has same] at newer
  exact Nat.lt_irrefl _ newer

theorem unclosed_of_turn {moment : Moment} (has : moment.turn? = some turn) :
    ¬ moment.Closes uri := by
  rintro ⟨host, now⟩
  simp only [Moment.turn?, now, Session.turn?] at has
  cases has

theorem unpublished_of_turn {moment : Moment} (has : moment.turn? = some turn) :
    moment.published = [] := by
  rcases Moment.published_cases moment with none | ⟨host, id, output, -, now, -⟩
  · exact none
  · rw [Moment.turn?, now] at has
    cases has

/-- A validation of a document that has its turn: its portrait changes as if it were validated. -/
theorem portrait_of_turn (sound : trial.Sound)
    (apart : trial.Apart input)
    (has : (trial.state.moment input).turn? = some turn) (same : turn.uri = uri)
    (settings : turn.settings = (trial.state.moment input).after.general)
    (located : turn.executable =
      trial.state.world.locate (trial.state.moment input).after.general)
    (creatable : turn.file ≠ none) {rests : Bool}
    (dropsRests : DropsRests uri trial.state.session (trial.state.moment input).after rests) :
    trial.Becomes uri input fun answer =>
      Portrait.validate trial.state.world.toSurroundings answer trial.now (turn.cause = .rest)
        ⟨(trial.state.moment input).after.documents.get? uri,
          (trial.state.moment input).after.general,
          ((trial.portrait uri).shed rests false).entries⟩ := by
  have numbered := sound.revised.numbered
  subst same
  cases Moment.upshot _ has with
  | failed missing => exact absurd missing creatable
  | skipped missing kept gone =>
    have quiet : Quiet (trial.state.moment input).after (trial.state.moment input).effects := by
      rcases begins_or_quiet numbered has with ⟨check, text, -, stands⟩ | ⟨-, quiet⟩
      · cases gone.symm.trans stands
      · exact quiet
    have unseen : (trial.state.moment input).sights turn.uri = [] := by
      rw [sights_of_idle (idle_of_quiet quiet), unpublished_of_turn has]
      rfl
    have calls := dropsCalls_of_unturned (unclosed_of_turn has) fun _ _ (_ : _ = turn.uri) => kept
    refine ⟨"", ?_⟩
    change _ = Portrait.validate _ _ _ _ _
    rw [portrait_feed sound apart dropsRests calls, tokens_of_quiet quiet, unseen, Portrait.validate]
    rw [located] at missing
    split
    · rename_i executable document found present
      rcases missing with none | none
      · cases none.symm.trans found
      · cases none.symm.trans present
    · rfl
  | called executable file document found made present drawn checks calls =>
    rcases begins_or_quiet numbered has with ⟨check, text, begins, stands⟩ | ⟨gone, -⟩
    · obtain rfl := Standing.checking.inj (Option.some.inj (checks.symm.trans stands))
      obtain ⟨-, latest, -⟩ := Moment.after_draw begins.draws
      refine ⟨file, ?_⟩
      change _ = Portrait.validate _ _ _ _ _
      rw [portrait_feed sound apart dropsRests (dropsCalls_of_begins begins),
        tokens_of_call calls checks latest, sights_of_call calls checks, Portrait.validate]
      rw [located] at found
      have mine : (turn.check ((trial.state.moment input).session.revision + 1) document executable
          file).uri = turn.uri := rfl
      have limit : (turn.check ((trial.state.moment input).session.revision + 1) document executable
          file).limit = (trial.state.moment input).after.general.maxDiagnostics :=
        congrArg Settings.maxDiagnostics settings
      simp only [found, present, mine, limit, if_true, Agenda.planAll_cons]
      simp only [Portrait.plan, Portrait.shed, shed_in_turn]
      rfl
    · cases gone.symm.trans checks

/-! ### Moments that a document has no part in -/

/-- An entry in the books that is not about a document. -/
def Spares (books : Books) (uri : Uri) : Entry → Prop
  | .nothing => True
  | .opened other _ => other ≠ uri
  | .changed other _ _ => other = uri → books.documents.get? uri = none
  | .closed other => other ≠ uri
  | .rested other ticket => other = uri → books.timers.pending.get? uri ≠ some ticket
  | _ => False

theorem spares_enter {books : Books} {entry : Entry} (spares : Spares books uri entry) :
    (books.enter entry).documents.get? uri = books.documents.get? uri ∧
      (books.enter entry).timers.pending.get? uri = books.timers.pending.get? uri := by
  cases entry with
  | nothing => exact ⟨rfl, rfl⟩
  | opened other document => exact ⟨Table.get?_put_of_ne _ _ (Ne.symm spares), rfl⟩
  | closed other =>
    exact ⟨Table.get?_erase_of_ne _ (Ne.symm spares), Table.get?_erase_of_ne _ (Ne.symm spares)⟩
  | changed other text version =>
    simp only [Books.enter]
    split
    · exact ⟨rfl, rfl⟩
    · rename_i document present
      have different : uri ≠ other := by
        rintro rfl
        cases (spares rfl).symm.trans present
      exact ⟨Table.get?_put_of_ne _ _ different, Table.get?_put_of_ne _ _ different⟩
  | rested other ticket =>
    refine ⟨rfl, ?_⟩
    simp only [Books.enter, Debounce.Register.claim?]
    split
    · rename_i pending
      have different : uri ≠ other := by
        rintro rfl
        exact spares rfl pending
      exact Table.get?_erase_of_ne _ different
    · rfl
  | stopped => exact spares.elim
  | configured settings => exact spares.elim
  | informed other settings => exact spares.elim
  | supported pulls => exact spares.elim
  | general settings => exact spares.elim

/-- No validation of the document has its turn. -/
def Unturned (uri : Uri) (moment : Moment) : Prop :=
  ∀ turn, moment.turn? = some turn → turn.uri ≠ uri

theorem tokens_of_unturned (sequel : Sequel (trial.state.moment input))
    (unturned : Unturned uri (trial.state.moment input))
    (unchanged : ∀ text version, input = .start (.change uri text version) →
      trial.state.session.documents.get? uri = none)
    (unconfigured : ∀ settings, input ≠ .start (.configure settings)) :
    trial.tokens uri input = [] := by
  cases sequel with
  | quiet quiet => exact tokens_of_quiet quiet
  | checks turn check text begins stands =>
    obtain ⟨-, latest, -⟩ := Moment.after_draw begins.draws
    rw [tokens_of_call begins.calls stands latest, if_neg]
    exact fun same => unturned turn begins.has (begins.uri.symm.trans same)
  | asks id executable arguments text host other question now calls gone drawn =>
    rw [tokens, following_call calls]
    simp [token?, gone]
  | rests host other text version id now present rests =>
    have different : other ≠ uri := by
      rintro rfl
      obtain ⟨document, found⟩ := (Table.contains_iff ..).mp present
      cases (unchanged text version (Impulse.input.inj now).2).symm.trans found
    have one : trial.following input =
        [(.after trial.state.world.rest, .rested other trial.state.session.timers.nextTicket)] :=
      congrArg (List.flatMap _) rests
    rw [tokens, one]
    simp [token?, different]
  | fansOut id base host settings now queues result drawn =>
    exact absurd (Impulse.input.inj now).2 (unconfigured settings)

theorem sights_of_unturned {moment : Moment} (sequel : Sequel moment)
    (unturned : Unturned uri moment) :
    moment.sights uri = (moment.published.filter (·.check.uri = uri)).map
      fun publication => .shown publication.diagnostics publication.check.version := by
  have unpublished : ∀ {id executable arguments text},
      moment.effects = [.call id executable arguments text] → moment.published = [] := by
    intro id executable arguments text calls
    rw [Moment.published, calls]
    rfl
  cases sequel with
  | quiet quiet => exact sights_of_idle (idle_of_quiet quiet)
  | checks turn check text begins stands =>
    rw [sights_of_call begins.calls stands, unpublished begins.calls, if_neg]
    · rfl
    · exact fun same => unturned turn begins.has (begins.uri.symm.trans same)
  | asks id executable arguments text host other question now calls gone drawn =>
    rw [Moment.sights, unpublished calls, calls]
    simp [Effect.sight?, gone]
  | rests host other text version id now present rests =>
    refine sights_of_idle ?_
    rw [rests]
    exact idle_cons.mpr ⟨not_false, idle_cons.mpr ⟨not_false, idle_nil⟩⟩
  | fansOut id base host settings now queues result drawn =>
    exact sights_of_idle (queues ▸ idle_fanOut base id _)

theorem general_kept (unconfigured : ∀ settings, input ≠ .start (.configure settings)) :
    (trial.state.moment input).after.general = trial.state.session.general := by
  rcases Moment.general_after (trial.state.moment input) nofun with ⟨host, settings, now⟩ | kept
  · exact absurd (Impulse.input.inj now).2 (unconfigured settings)
  · exact kept

/-- An input that is not for a document leaves its portrait alone, but for what the document loses. -/
theorem portrait_of_unturned (sound : trial.Sound)
    (apart : trial.Apart input)
    (sequel : Sequel (trial.state.moment input))
    (unturned : Unturned uri (trial.state.moment input))
    (unchanged : ∀ text version, input = .start (.change uri text version) →
      trial.state.session.documents.get? uri = none)
    (unconfigured : ∀ settings, input ≠ .start (.configure settings)) {rests calls : Bool}
    (dropsRests : DropsRests uri trial.state.session (trial.state.moment input).after rests)
    (dropsCalls : DropsCalls uri trial.state.session (trial.state.moment input).after calls) :
    portrait uri (Simulation.feed machine trial input) =
      { trial.portrait uri with
        document := (trial.state.moment input).after.documents.get? uri }.shed rests calls := by
  rw [portrait_feed sound apart dropsRests dropsCalls,
    tokens_of_unturned sequel unturned unchanged unconfigured, general_kept unconfigured]
  rfl

theorem shed_nothing (portrait : Portrait) : portrait.shed false false = portrait := by
  have all : (portrait.entries.filter fun entry => entry.2.survives false false) =
      portrait.entries := by
    refine List.filter_eq_self.mpr ?_
    rintro ⟨due, token⟩ -
    cases token <;> rfl
  rw [Portrait.shed, all]

/-- A moment that is not about a document leaves its portrait alone. -/
theorem portrait_kept (sound : trial.Sound)
    (apart : trial.Apart input)
    (sequel : Sequel (trial.state.moment input))
    (unturned : Unturned uri (trial.state.moment input))
    (spares : Spares trial.state.session.books uri
      (trial.state.session.entry (trial.state.moment input).impulse)) :
    portrait uri (Simulation.feed machine trial input) = trial.portrait uri := by
  obtain ⟨documents, timers⟩ := spares_enter spares
  have unclosed : ¬ (trial.state.moment input).Closes uri := by
    rintro ⟨host, now⟩
    obtain ⟨-, rfl⟩ := Impulse.input.inj now
    exact spares rfl
  have unchanged : ∀ text version, input = .start (.change uri text version) →
      trial.state.session.documents.get? uri = none := by
    rintro text version rfl
    exact spares rfl
  have unconfigured : ∀ settings, input ≠ .start (.configure settings) := by
    rintro settings rfl
    exact spares
  have known := Moment.documents_after (trial.state.moment input)
  have document : (trial.state.moment input).after.documents.get? uri =
      trial.state.session.documents.get? uri := known.1 ▸ documents
  have rests : DropsRests uri trial.state.session (trial.state.moment input).after false := by
    rw [DropsRests, known.2]
    exact timers
  have calls : DropsCalls uri trial.state.session (trial.state.moment input).after false :=
    dropsCalls_of_unturned unclosed fun turn has same => absurd same (unturned turn has)
  rw [portrait_of_unturned sound apart sequel unturned unchanged unconfigured rests calls,
    shed_nothing, document]
  rfl

/-- Nothing happens to a document that has no part in a moment. -/
theorem portrait_spared (sound : trial.Sound)
    (apart : trial.Apart input)
    (sequel : Sequel (trial.state.moment input))
    (unturned : Unturned uri (trial.state.moment input))
    (spares : Spares trial.state.session.books uri
      (trial.state.session.entry (trial.state.moment input).impulse))
    (unpublished : ∀ publication ∈ (trial.state.moment input).published,
      publication.check.uri ≠ uri) :
    (portrait uri (Simulation.feed machine trial input), (trial.state.moment input).sights uri) =
      (trial.portrait uri, []) := by
  have none : (trial.state.moment input).published.filter (·.check.uri = uri) = [] := by
    refine List.filter_eq_nil_iff.mpr ?_
    intro publication member
    simpa using unpublished publication member
  rw [portrait_kept sound apart sequel unturned spares, sights_of_unturned sequel unturned, none]
  rfl

/-- Only the end of a call leads to publications. -/
theorem unpublished_of_unended (trial : Trial) (input : Input)
    (unended : ∀ id ending, input ≠ .ended id ending) :
    (trial.state.moment input).published = [] := by
  rcases Moment.published_cases (trial.state.moment input) with none | ⟨host, id, output, -, now, -⟩
  · exact none
  · exact absurd (Impulse.input.inj now).2 (unended id _)

/-! ### Configurations -/

/-- What can be said of each place of a list, is said of its elements in turn. -/
theorem filterMap_range' {pick : Nat → Option κ} {value : α → Option κ} (list : List α) (first : Nat)
    (each : ∀ place, place < list.length → pick (first + place) = list[place]?.bind value) :
    (List.range' first list.length).filterMap pick = list.filterMap value := by
  induction list generalizing first with
  | nil => rfl
  | cons head rest ih =>
    have here := each 0 (Nat.zero_lt_succ _)
    have others := ih (first + 1) fun place inside => by
      rw [Nat.add_assoc, Nat.add_comm 1 place]
      exact each (place + 1) (Nat.succ_lt_succ inside)
    rw [List.length_cons, List.range'_succ, List.filterMap_cons, List.filterMap_cons, others]
    have same : pick first = value head := here
    rw [same]

/-- Of things that all differ, at most one is a given one. -/
theorem filterMap_of_nodup {uris : List Uri} (distinct : uris.Nodup) (uri : Uri) (value : κ) :
    (uris.filterMap fun other => if other = uri then some value else none) =
      if uri ∈ uris then [value] else [] := by
  induction uris with
  | nil => rfl
  | cons head rest ih =>
    obtain ⟨absent, distinct⟩ := List.nodup_cons.mp distinct
    have others := ih distinct
    by_cases same : head = uri
    · subst same
      rw [if_neg absent] at others
      simp [others]
    · simp [others, same, Ne.symm same]

/-- Validations of several documents mean one for each of them. -/
theorem tokens_of_fanOut (base : Session) (change : OperationId) (uris : List Uri) (uri : Uri) :
    ((base.fanOut change uris).2.flatMap (follows trial.state.world.toSurroundings trial.now)).filterMap
        (fun item => (token? (base.fanOut change uris).1 uri item.2).map (item.1, ·)) =
      uris.filterMap fun other =>
        if other = uri then some (.after 0, .begin false) else none := by
  rw [flatMap_fanOut, List.filterMap_map]
  refine filterMap_range' uris base.nextOperation ?_
  intro place inside
  have ready := fanOut_above base change uris place
  rw [List.getElem?_eq_getElem inside] at ready ⊢
  simp only [Function.comp, token?, standing?, ready]
  by_cases same : uris[place] = uri
  · simp [Stage.standing?, same]
  · simp [Stage.standing?, same]

/-- A change of the configuration that leads to another compiler plans a validation of the document
if it is open. -/
theorem tokens_of_configure (sound : trial.Sound) (settings : Option Settings) :
    trial.tokens uri (.start (.configure settings)) =
      if (trial.state.session.documents.get? uri).isSome ∧
          trial.state.world.locate trial.state.session.general ≠
            trial.state.world.locate (settings.getD trial.state.session.general) then
        [(.after 0, .begin false)]
      else [] := by
  have synced : (trial.state.session.documents.get? uri).isSome →
      trial.state.session.compiler = trial.state.world.locate trial.state.session.general :=
    sound.synced uri
  have reacts := @Moment.react_configured (trial.state.moment (.start (.configure settings))) _ _ rfl
    sound.unasking.pulls
  rcases reconfigured_cases trial.state.world.host
    ((trial.state.moment (.start (.configure settings))).changed settings)
    trial.state.session.nextOperation (settings.getD trial.state.session.general) with
    ⟨same, ends⟩ | ⟨differs, base, -, spreads⟩
  · have ends := (congrArg Prod.snd reacts).trans ends
    have idle : trial.following (.start (.configure settings)) = [] := by
      rw [following, Moment.effects, ends]
      rfl
    rw [tokens, idle, if_neg]
    · rfl
    · rintro ⟨present, differs⟩
      rcases same with same | none
      · exact differs ((synced present).symm.trans same)
      · have member := (Table.mem_keys trial.state.session.documents uri).mpr present
        cases none ▸ member
  · have spreads := reacts.trans spreads
    rw [tokens, following, Moment.effects, Moment.after, spreads, tokens_of_fanOut]
    refine (filterMap_of_nodup sound.keys uri _).trans ?_
    by_cases present : (trial.state.session.documents.get? uri).isSome
    · rw [if_pos ((Table.mem_keys ..).mpr present), if_pos]
      exact ⟨present, fun same => differs ((synced present).trans same)⟩
    · rw [if_neg (mt (Table.mem_keys ..).mp present), if_neg (fun both => present both.1)]

end LanguageServer.Scenario.Trial
