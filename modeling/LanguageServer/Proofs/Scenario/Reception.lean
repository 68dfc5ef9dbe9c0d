import LanguageServer.Proofs.Scenario.Projection

/-! The portrait of a document after an input: what was planned, and what is asked of a session. -/

namespace LanguageServer.Scenario.Trial

open Session

variable {trial : Trial} {input : Input} {uri : Uri}

/-! ### What was planned -/

theorem ready_of_preparing {session : Session} (unasking : session.Unasking) {id : OperationId}
    {cause : Cause} (stands : session.standing? id = some (.preparing uri cause)) :
    session.operations.get? id = some (.ready uri cause) := by
  obtain ⟨stage, waits, standing⟩ := Option.bind_eq_some_iff.mp stands
  cases stage with
  | ready other because =>
    obtain ⟨rfl, rfl⟩ := Standing.preparing.inj (Option.some.inj standing)
    exact waits
  | fetching task => exact absurd waits (unasking.fetching id task)
  | _ => cases standing

/-- The end of the latest call for a document leads to a publication, unless the compiler could not
be run. -/
theorem published_of_current {session : Session} (host : Host) {id : OperationId} {check : Check}
    (checks : session.operations.get? id = some (.checking check))
    (current : session.isCurrent check.uri check.revision = true) (ending : Compiler.Ending) :
    (Moment.mk session (.input host (.ended id ending))).published =
      match Compiler.diagnostics ending with
      | .ok found => [⟨check, found.take check.limit⟩]
      | .error _ => [] := by
  have effects : (Moment.mk session (.input host (.ended id ending))).effects =
      (session.checked id check ending).2 := by
    simp only [Moment.effects, react, Session.step, checks]
  rw [Moment.published, effects]
  cases ending with
  | error fault => exact checked_fault session id check fault
  | ok output =>
    rw [checked_current session id check output current]
    exact congrArg (List.cons _) (publications_conclude ..)

theorem latest_of_isCurrent {session : Session} {revision : Nat}
    (current : session.isCurrent uri revision = true) : session.latest.get? uri = some revision := by
  rw [isCurrent, Bool.and_eq_true] at current
  exact beq_iff_eq.mp current.2

theorem check_of_token {session : Session} {id : OperationId} {ending : Compiler.Ending}
    {token : Token} (meaning : token? session uri (.ended id ending) = some token) :
    ∃ check, session.standing? id = some (.checking check) ∧ check.uri = uri ∧
      session.latest.get? uri = some check.revision ∧
      token = .finish check.version check.limit ending := by
  rw [token?] at meaning
  split at meaning
  · rename_i check stands
    split at meaning
    · rename_i both
      exact ⟨check, stands, both.1, both.2, (Option.some.inj meaning).symm⟩
    · cases meaning
  · cases meaning

section

variable (sound : trial.Sound)
  (apart : trial.Apart input)

include sound apart

theorem portrait_validated (creatable : trial.state.world.broken = false)
    (unconfigured : ∀ settings, input ≠ .start (.configure settings)) {id : OperationId}
    {cause : Cause} (has : (trial.state.moment input).turn? =
      trial.state.session.beginning? trial.state.world.host id uri cause) {rests : Bool}
    (dropsRests : DropsRests uri trial.state.session (trial.state.moment input).after rests) :
    trial.Becomes uri input fun answer =>
      Portrait.validate trial.state.world.toSurroundings answer trial.now (cause = .rest)
        ({ trial.portrait uri with
          document := (trial.state.moment input).after.documents.get? uri }.shed rests false) := by
  have general : (trial.state.moment input).after.general = trial.state.session.general :=
    general_kept unconfigured
  rw [beginning?, settings?, sound.unasking.pulls] at has
  have file : trial.state.world.host.scratch id ≠ none := by
    simp [World.host, creatable]
  have validated := portrait_of_turn sound apart has rfl general.symm
    (congrArg trial.state.world.locate general.symm) file dropsRests
  rw [general] at validated
  exact validated

theorem portrait_of_rested (creatable : trial.state.world.broken = false) {other : Uri}
    {ticket : Nat} (rested : input = .rested other ticket) :
    trial.Becomes uri input fun answer =>
      (trial.portrait uri).proceed trial.state.world.toSurroundings answer trial.now
        (token? trial.state.session uri input) := by
  subst rested
  have known := Moment.documents_after (trial.state.moment (.rested other ticket))
  by_cases mine : other = uri ∧ trial.state.session.timers.pending.get? uri = some ticket
  · obtain ⟨rfl, pending⟩ := mine
    have has : (trial.state.moment (.rested other ticket)).turn? =
        trial.state.session.beginning? trial.state.world.host trial.state.session.nextOperation other
          .rest := if_pos pending
    have drops : DropsRests other trial.state.session
        (trial.state.moment (.rested other ticket)).after true := by
      intro old _
      have claimed : (trial.state.moment (.rested other ticket)).entered.timers.pending =
          trial.state.session.timers.pending.erase other := by
        simp only [Moment.entered, State.moment, entry, Books.enter, Debounce.Register.claim?, books,
          pending, if_true]
        rfl
      rw [known.2, claimed, Table.get?_erase_self]
      simp
    have document : (trial.state.moment (.rested other ticket)).after.documents =
        trial.state.session.documents := known.1
    have validated := portrait_validated sound apart creatable (by simp) has drops
    rw [document] at validated
    simp only [token?, pending, and_self, if_true]
    exact validated
  · refine ⟨"", ?_⟩
    simp only [token?, mine, if_false]
    refine portrait_spared sound apart ?_ ?_ ?_ ?_
    · exact sequel_input sound.unasking _ sound.revised.numbered _ (by simp)
    · intro turn has same
      have has : trial.state.session.turn? _ (.rested other ticket) = some turn := has
      rw [Session.turn?] at has
      split at has
      · rename_i pending
        obtain ⟨settings, rfl, -⟩ := validate_of_beginning _ has
        obtain rfl : other = uri := same
        exact mine ⟨rfl, pending⟩
      · cases has
    · exact fun same pending => mine ⟨same, pending⟩
    · rw [unpublished_of_unended trial (.rested other ticket) (by simp)]
      simp

theorem portrait_of_begun (creatable : trial.state.world.broken = false) {id : OperationId}
    (begun : input = .turn id) :
    trial.Becomes uri input fun answer =>
      (trial.portrait uri).proceed trial.state.world.toSurroundings answer trial.now
        (token? trial.state.session uri input) := by
  subst begun
  have has : (trial.state.moment (.turn id)).turn? =
      trial.state.session.turn? trial.state.world.host (.turn id) := rfl
  by_cases mine : ∃ cause, trial.state.session.operations.get? id = some (.ready uri cause)
  · obtain ⟨cause, waits⟩ := mine
    simp only [Session.turn?, waits] at has
    have known := Moment.documents_after (trial.state.moment (.turn id))
    have document : (trial.state.moment (.turn id)).after.documents =
        trial.state.session.documents := known.1
    have rests : DropsRests uri trial.state.session (trial.state.moment (.turn id)).after false := by
      rw [DropsRests, known.2]
      rfl
    have validated := portrait_validated sound apart creatable (by simp) has rests
    rw [document, shed_nothing] at validated
    simp only [token?, standing?, waits, Option.bind_some, Stage.standing?, if_true]
    exact validated
  · have meaningless : token? trial.state.session uri (.turn id) = none := by
      rw [token?]
      split
      · rename_i other cause stands
        refine if_neg ?_
        rintro rfl
        exact mine ⟨cause, ready_of_preparing sound.unasking stands⟩
      · rfl
    rw [meaningless]
    refine ⟨"", portrait_spared sound apart ?_ ?_ trivial ?_⟩
    · exact sequel_input sound.unasking _ sound.revised.numbered _ (by simp)
    · intro turn begins same
      rw [has, Session.turn?] at begins
      split at begins
      · rename_i other cause waits
        obtain ⟨settings, rfl, -⟩ := validate_of_beginning _ begins
        obtain rfl : other = uri := same
        exact mine ⟨cause, waits⟩
      · cases begins
    · rw [unpublished_of_unended trial (.turn id) (by simp)]
      simp

theorem portrait_of_ended {id : OperationId} {ending : Compiler.Ending}
    (ended : input = .ended id ending) (answer : Checker) :
    (portrait uri (Simulation.feed machine trial input), (trial.state.moment input).sights uri) =
      (trial.portrait uri).proceed trial.state.world.toSurroundings answer trial.now
        (token? trial.state.session uri input) := by
  subst ended
  have sequel : Sequel (trial.state.moment (.ended id ending)) :=
    sequel_input sound.unasking _ sound.revised.numbered _ nofun
  have unturned : Unturned uri (trial.state.moment (.ended id ending)) := fun _ has => nomatch has
  cases meaning : token? trial.state.session uri (.ended id ending) with
  | none =>
    refine portrait_spared sound apart sequel unturned trivial ?_
    intro publication member same
    rcases Moment.published_cases (trial.state.moment (.ended id ending)) with
      none | ⟨host, other, output, check, now, checks, current, published⟩
    · rw [none] at member
      cases member
    · obtain ⟨-, names⟩ := Impulse.input.inj now
      obtain ⟨rfl, rfl⟩ := Input.ended.inj names
      rw [published] at member
      obtain rfl := List.mem_singleton.mp member
      obtain rfl : check.uri = uri := same
      have stands : trial.state.session.standing? id = some (.checking check) :=
        standing?_eq_checking.mpr checks
      have latest : trial.state.session.latest.get? check.uri = some check.revision :=
        (latest_of_isCurrent current)
      simp [token?, stands, latest] at meaning
  | some token =>
    obtain ⟨check, stands, rfl, latest, rfl⟩ := check_of_token meaning
    have present : trial.state.session.isOpen check.uri = true :=
      sound.tidy.latest check.uri ((Table.contains_iff ..).mpr ⟨_, latest⟩)
    have current : trial.state.session.isCurrent check.uri check.revision = true := by
      rw [isCurrent, present, latest]
      exact beq_self_eq_true _
    have published := published_of_current (trial.state.world.host) (standing?_eq_checking.mp stands)
      current ending
    rw [portrait_kept sound apart sequel unturned trivial, sights_of_unturned sequel unturned,
      State.moment, published]
    simp only [Portrait.proceed, Portrait.take]
    cases Compiler.diagnostics ending <;> simp

/-- Something happens that was planned: only what it means for a document matters to its portrait. -/
theorem portrait_tick (creatable : trial.state.world.broken = false)
    (expected : input.Expected trial.state.session) :
    trial.Becomes uri input fun answer =>
      (trial.portrait uri).proceed trial.state.world.toSurroundings answer trial.now
        (token? trial.state.session uri input) := by
  cases input with
  | rested other ticket => exact portrait_of_rested sound apart creatable rfl
  | turn id => exact portrait_of_begun sound apart creatable rfl
  | ended id ending => exact ⟨"", portrait_of_ended sound apart rfl _⟩
  | start request => exact expected.elim
  | settings id answer => exact expected.elim
  | abandon id => exact expected.elim

end

/-! ### Requests -/

section

variable (sound : trial.Sound)

include sound

/-- What a request becomes. -/
def Receives (uri : Uri) (trial : Trial) (request : Request) : Prop :=
  trial.Becomes uri (.start request) fun answer =>
    (trial.portrait uri).receive trial.state.world.toSurroundings answer trial.now uri request

omit sound in
theorem apart_start (trial : Trial) (request : Request) : trial.Apart (.start request) :=
  fun _ _ => ⟨nofun, nofun⟩

theorem sequel_of_request (request : Request) : Sequel (trial.state.moment (.start request)) :=
  sequel_input sound.unasking _ sound.revised.numbered _ nofun

omit sound in
theorem unpublished_of_request (trial : Trial) (request : Request) :
    (trial.state.moment (.start request)).published = [] :=
  unpublished_of_unended trial (.start request) nofun

omit sound in
theorem calls_of_request {request : Request} (unclosed : request ≠ .close uri)
    (unturned : Unturned uri (trial.state.moment (.start request))) :
    DropsCalls uri trial.state.session (trial.state.moment (.start request)).after false := by
  refine dropsCalls_of_unturned ?_ fun turn has same => absurd same (unturned turn has)
  rintro ⟨host, now⟩
  cases now
  exact unclosed rfl

theorem unseen_of_request {request : Request}
    (unturned : Unturned uri (trial.state.moment (.start request))) :
    (trial.state.moment (.start request)).sights uri = [] := by
  rw [sights_of_unturned (sequel_of_request sound request) unturned, unpublished_of_request]
  rfl

theorem spared_of_request {request : Request}
    (unturned : Unturned uri (trial.state.moment (.start request)))
    (spares : Spares trial.state.session.books uri
      (trial.state.session.entry (trial.state.moment (.start request)).impulse)) :
    (portrait uri (Simulation.feed machine trial (.start request)),
        (trial.state.moment (.start request)).sights uri) = (trial.portrait uri, []) := by
  refine portrait_spared sound (apart_start trial _) (sequel_of_request sound request) unturned spares ?_
  rw [unpublished_of_request]
  nofun

theorem receives_ask (other : Uri) (question : Question) :
    trial.Receives uri (.ask other question) :=
  ⟨"", spared_of_request sound nofun trivial⟩

theorem receives_shutdown : trial.Receives uri .shutdown := by
  have unturned : Unturned uri (trial.state.moment (.start .shutdown)) := nofun
  have known := Moment.documents_after (trial.state.moment (.start .shutdown))
  have rests : DropsRests uri trial.state.session
      (trial.state.moment (.start .shutdown)).after true := by
    intro ticket _
    rw [known.2]
    nofun
  have calls : DropsCalls uri trial.state.session
      (trial.state.moment (.start .shutdown)).after false :=
    calls_of_request (by simp) unturned
  refine ⟨"", ?_⟩
  rw [unseen_of_request sound unturned, portrait_of_unturned sound (apart_start trial _)
    (sequel_of_request sound _) unturned nofun nofun rests calls, known.1]
  rfl

theorem receives_close (other : Uri) : trial.Receives uri (.close other) := by
  have unturned : Unturned uri (trial.state.moment (.start (.close other))) := nofun
  by_cases mine : other = uri
  · subst mine
    have known := Moment.documents_after (trial.state.moment (.start (.close other)))
    have rests : DropsRests other trial.state.session
        (trial.state.moment (.start (.close other))).after true := by
      intro ticket _
      rw [known.2]
      exact fun pending => nomatch (Table.get?_erase_self ..).symm.trans pending
    have calls : DropsCalls other trial.state.session
        (trial.state.moment (.start (.close other))).after true := by
      intro revision _
      rw [Moment.latest_closed ⟨_, rfl⟩]
      nofun
    have document : (trial.state.moment (.start (.close other))).after.documents.get? other = none :=
      known.1 ▸ Table.get?_erase_self ..
    refine ⟨"", ?_⟩
    rw [unseen_of_request sound unturned, portrait_of_unturned sound (apart_start trial _)
      (sequel_of_request sound _) unturned nofun nofun rests calls, document]
    simp only [Portrait.receive, if_true]
  · refine ⟨"", ?_⟩
    simp only [Portrait.receive, mine, if_false]
    exact spared_of_request sound unturned mine

theorem receives_validate (creatable : trial.state.world.broken = false) (other : Uri) :
    trial.Receives uri (.validate other) := by
  by_cases mine : other = uri
  · subst mine
    have known := Moment.documents_after (trial.state.moment (.start (.validate other)))
    have document : (trial.state.moment (.start (.validate other))).after.documents =
        trial.state.session.documents := known.1
    have rests : DropsRests other trial.state.session
        (trial.state.moment (.start (.validate other))).after false := by
      rw [DropsRests, known.2]
      rfl
    have validated := portrait_validated sound (apart_start trial (.validate other)) creatable (by simp)
      rfl rests
    rw [document, shed_nothing] at validated
    simp only [Receives, Portrait.receive, if_true]
    exact validated
  · refine ⟨"", ?_⟩
    simp only [Portrait.receive, mine, if_false]
    refine spared_of_request sound ?_ trivial
    intro turn has
    obtain ⟨settings, rfl, -⟩ := validate_of_beginning _ has
    exact mine

theorem receives_open (creatable : trial.state.world.broken = false) (other : Uri) (text : String)
    (version : Int) : trial.Receives uri (.open other text version) := by
  have has : (trial.state.moment (.start (.open other text version))).turn? =
      trial.state.session.turn? trial.state.world.host (.start (.open other text version)) := rfl
  by_cases mine : other = uri
  · subst mine
    have known := Moment.documents_after (trial.state.moment (.start (.open other text version)))
    have document : (trial.state.moment (.start (.open other text version))).after.documents.get?
        other = some ⟨text, version⟩ := known.1 ▸ Table.get?_put_self ..
    have rests : DropsRests other trial.state.session
        (trial.state.moment (.start (.open other text version))).after false := by
      rw [DropsRests, known.2]
      rfl
    have validated : trial.state.session.validated.contains other =
        (trial.portrait other).document.isSome := by
      rw [Bool.eq_iff_iff, List.contains_iff_mem]
      exact sound.tidy.validated other
    simp only [Receives, Portrait.receive, if_true]
    cases present : (trial.portrait other).document.isSome with
    | true =>
      rw [Session.turn?, validated, present] at has
      have unturned : Unturned other (trial.state.moment (.start (.open other text version))) := by
        rw [Unturned, has]
        simp
      have calls : DropsCalls other trial.state.session
          (trial.state.moment (.start (.open other text version))).after false :=
        calls_of_request (by simp) unturned
      refine ⟨"", ?_⟩
      rw [unseen_of_request sound unturned, portrait_of_unturned sound (apart_start trial _)
        (sequel_of_request sound _) unturned (by simp) (by simp) rests calls, shed_nothing, document]
      rfl
    | false =>
      rw [Session.turn?, validated, present] at has
      have validated := portrait_validated sound (apart_start trial (.open other text version))
        creatable (by simp) has rests
      rw [document, shed_nothing] at validated
      exact validated
  · refine ⟨"", ?_⟩
    simp only [Portrait.receive, mine, if_false]
    refine spared_of_request sound ?_ mine
    intro turn begins
    rw [has, Session.turn?] at begins
    split at begins
    · cases begins
    · obtain ⟨settings, rfl, -⟩ := validate_of_beginning _ begins
      exact mine

omit sound in
theorem changed_document {document : Document}
    (present : trial.state.session.documents.get? uri = some document) (text : String)
    (version : Int) :
    let moment := trial.state.moment (.start (.change uri text version))
    moment.after.documents.get? uri = some (document.update text version) ∧
      moment.after.timers = (trial.state.session.timers.schedule uri).1 ∧
      trial.tokens uri (.start (.change uri text version)) =
        [(.after trial.state.world.rest, .rest)] := by
  intro moment
  have timers : moment.after.timers = (trial.state.session.timers.schedule uri).1 :=
    timers_changed rfl ((Table.contains_iff ..).mpr ⟨document, present⟩)
  refine ⟨?_, timers, ?_⟩
  · have found : trial.state.session.books.documents.get? uri = some document := present
    rw [(Moment.documents_after moment).1]
    simp only [Moment.entered, moment, State.moment, entry, Books.enter, found]
    exact Table.get?_put_self ..
  · have follow : trial.following (.start (.change uri text version)) =
        [(.after trial.state.world.rest, .rested uri trial.state.session.timers.nextTicket)] := by
      simp only [following, Moment.effects, State.moment, react, Session.step, Session.start, changed,
        draw, present]
      rfl
    have pending : moment.after.timers.pending.get? uri =
        some trial.state.session.timers.nextTicket := timers ▸ Table.get?_put_self ..
    have meaning : token? moment.after uri (.rested uri trial.state.session.timers.nextTicket) =
        some .rest := if_pos ⟨rfl, pending⟩
    rw [tokens, follow]
    exact List.filterMap_cons_some (congrArg (Option.map _) meaning)

theorem receives_change (other : Uri) (text : String) (version : Int) :
    trial.Receives uri (.change other text version) := by
  have unturned : Unturned uri (trial.state.moment (.start (.change other text version))) := nofun
  refine ⟨"", ?_⟩
  cases present : trial.state.session.documents.get? uri with
  | none =>
    have absent : (trial.portrait uri).document = none := present
    simp only [Portrait.receive, absent]
    exact spared_of_request sound unturned fun _ => present
  | some document =>
    have shown : (trial.portrait uri).document = some document := present
    simp only [Portrait.receive, shown]
    by_cases mine : other = uri
    · subst mine
      obtain ⟨updated, timers, tokens⟩ := changed_document present text version
      have general : (trial.state.moment (.start (.change other text version))).after.general =
          trial.state.session.general := general_kept nofun
      have rests : DropsRests other trial.state.session
          (trial.state.moment (.start (.change other text version))).after true := by
        intro ticket drawn pending
        rw [timers] at pending
        have equal := Option.some.inj ((Table.get?_put_self ..).symm.trans pending)
        exact Nat.lt_irrefl _ (equal ▸ drawn)
      have calls : DropsCalls other trial.state.session
          (trial.state.moment (.start (.change other text version))).after false :=
        calls_of_request (by simp) unturned
      rw [unseen_of_request sound unturned, portrait_feed sound (apart_start trial _) rests calls,
        tokens, updated, general]
      simp only [if_true]
      rfl
    · simp only [mine, if_false]
      exact spared_of_request sound unturned fun same => absurd same mine

theorem receives_configure (settings : Option Settings) :
    trial.Receives uri (.configure settings) := by
  have unturned : Unturned uri (trial.state.moment (.start (.configure settings))) := nofun
  have known := Moment.documents_after (trial.state.moment (.start (.configure settings)))
  have document : (trial.state.moment (.start (.configure settings))).after.documents =
      trial.state.session.documents := known.1
  have general : (trial.state.moment (.start (.configure settings))).after.general =
      settings.getD trial.state.session.general := Moment.general_configured rfl
  have rests : DropsRests uri trial.state.session
      (trial.state.moment (.start (.configure settings))).after false := by
    rw [DropsRests, known.2]
    rfl
  have calls : DropsCalls uri trial.state.session
      (trial.state.moment (.start (.configure settings))).after false :=
    calls_of_request (by simp) unturned
  refine ⟨"", ?_⟩
  rw [unseen_of_request sound unturned, portrait_feed sound (apart_start trial _) rests calls,
    tokens_of_configure sound, document, general, shed_nothing]
  simp only [Portrait.receive]
  split
  · rename_i spreads
    exact (if_pos spreads).symm
  · rename_i stays
    exact (if_neg stays).symm

/-- A request reaches a session: only the portrait of a document matters to what becomes of it. -/
theorem receives (creatable : trial.state.world.broken = false) (request : Request) :
    trial.Receives uri request := by
  cases request with
  | «open» other text version => exact receives_open sound creatable other text version
  | change other text version => exact receives_change sound other text version
  | close other => exact receives_close sound other
  | shutdown => exact receives_shutdown sound
  | validate other => exact receives_validate sound creatable other
  | configure settings => exact receives_configure sound settings
  | ask other question => exact receives_ask sound other question

end

end LanguageServer.Scenario.Trial
