import Mathlib.Data.List.Nodup
import LanguageServer.Proofs.Session.Custody
import LanguageServer.Proofs.Session.Provenance

/-! Files over whole runs. The files that exist are those of the calls in flight, each with the text
that its document had when the call began, and the register of tasks that wait for their document to
come to rest never takes a file away. -/

namespace LanguageServer.Session

/-! ### Tasks of the register -/

/-- Entries give tickets only that have not been given before. -/
theorem ticket_enter (books : Books) (entry : Entry) {uri : Uri} {ticket : Nat}
    (waits : (books.enter entry).timers.pending.get? uri = some ticket) :
    books.timers.pending.get? uri = some ticket ∨
      ticket = books.timers.nextTicket ∧
        books.timers.nextTicket < (books.enter entry).timers.nextTicket := by
  have erased : ∀ other, (books.timers.pending.erase other).get? uri = some ticket →
      books.timers.pending.get? uri = some ticket := by
    intro other remains
    rw [Table.get?_erase] at remains
    split at remains
    · cases remains
    · exact remains
  cases entry with
  | changed other text version =>
    simp only [Books.enter] at waits ⊢
    split at waits
    · exact .inl waits
    · simp only [Debounce.Register.schedule, Table.get?_put] at waits
      split at waits
      · exact .inr ⟨(Option.some.inj waits).symm, Nat.lt_succ_self _⟩
      · exact .inl waits
  | closed other => exact .inl (erased other waits)
  | stopped => cases waits
  | informed other settings =>
    simp only [Books.enter] at waits
    split at waits <;> exact .inl waits
  | rested other due =>
    simp only [Books.enter, Debounce.Register.claim?] at waits
    split at waits
    · exact .inl (erased other waits)
    · exact .inl waits
  | _ => exact .inl waits

/-- A ticket that has been given, and that no document has any more. -/
def Spent (session : Session) (uri : Uri) (ticket : Nat) : Prop :=
  ticket < session.timers.nextTicket ∧ session.timers.pending.get? uri ≠ some ticket

/-- All tickets that documents have, have been given. -/
def Ticketed (session : Session) : Prop :=
  ∀ uri ticket, session.timers.pending.get? uri = some ticket → ticket < session.timers.nextTicket

namespace Moment

/-- The task with a ticket is taken out of the register, to run. -/
def Launches (moment : Moment) (uri : Uri) (ticket : Nat) : Prop :=
  (∃ host, moment.impulse = .input host (.rested uri ticket)) ∧
    moment.session.timers.pending.get? uri = some ticket

/-- The task with a ticket is dropped from the register without having run. -/
def Aborts (moment : Moment) (uri : Uri) (ticket : Nat) : Prop :=
  moment.session.timers.pending.get? uri = some ticket ∧
    moment.after.timers.pending.get? uri ≠ some ticket ∧ ¬ moment.Launches uri ticket

theorem ticket_after (moment : Moment) {uri : Uri} {ticket : Nat}
    (waits : moment.after.timers.pending.get? uri = some ticket) :
    moment.session.timers.pending.get? uri = some ticket ∨
      ticket = moment.session.timers.nextTicket ∧
        moment.session.timers.nextTicket < moment.after.timers.nextTicket := by
  rw [moment.documents_after.2] at waits ⊢
  exact ticket_enter moment.session.books _ waits

theorem ticketed_after (moment : Moment) (ticketed : moment.session.Ticketed) :
    moment.after.Ticketed := by
  intro uri ticket waits
  rcases moment.ticket_after waits with before | ⟨rfl, given⟩
  · exact Nat.lt_of_lt_of_le (ticketed uri ticket before) moment.nextTicket_le_after
  · exact given

theorem spent_after (moment : Moment) {uri : Uri} {ticket : Nat}
    (spent : moment.session.Spent uri ticket) : moment.after.Spent uri ticket := by
  refine ⟨Nat.lt_of_lt_of_le spent.1 moment.nextTicket_le_after, ?_⟩
  intro waits
  rcases moment.ticket_after waits with before | ⟨rfl, -⟩
  · exact spent.2 before
  · exact Nat.lt_irrefl _ spent.1

theorem Launches.gone {moment : Moment} {uri : Uri} {ticket : Nat}
    (launches : moment.Launches uri ticket) :
    moment.after.timers.pending.get? uri ≠ some ticket := by
  obtain ⟨⟨host, now⟩, due⟩ := launches
  obtain ⟨session, impulse⟩ := moment
  obtain rfl := now
  rw [documents_after _ |>.2]
  simp [entered, Session.entry, Books.enter, Debounce.Register.claim?, books, due]

end Moment

theorem ticketed_run (general : Settings) (impulses : List Impulse) :
    ((fresh general).after impulses).Ticketed :=
  after_induction (fun session impulse => Moment.ticketed_after ⟨session, impulse⟩) _
    (by intro uri ticket waits; cases waits) impulses

/-- A ticket that a document had and has no more does not come back. -/
theorem ticket_gone {general : Settings} {impulses : List Impulse} {first last : Nat}
    {one other : Moment} {uri : Uri} {ticket : Nat}
    (here : ((fresh general).moments impulses)[first]? = some one)
    (there : ((fresh general).moments impulses)[last]? = some other) (earlier : first < last)
    (had : one.session.timers.pending.get? uri = some ticket)
    (gone : one.after.timers.pending.get? uri ≠ some ticket) :
    other.session.timers.pending.get? uri ≠ some ticket := by
  obtain ⟨before, between, -, -, found, reached⟩ := moments_between here there earlier
  have given : ticket < one.session.timers.nextTicket := by
    rw [found] at had ⊢
    exact ticketed_run general before uri ticket had
  have spent : one.after.Spent uri ticket :=
    ⟨Nat.lt_of_lt_of_le given one.nextTicket_le_after, gone⟩
  rw [reached]
  exact (after_induction (motive := fun session => session.Spent uri ticket)
    (fun session impulse => Moment.spent_after ⟨session, impulse⟩) _ spent between).2

/-- The register drops no task that runs or has run, and runs no task that it has dropped. -/
theorem not_aborts_of_launches {general : Settings} {impulses : List Impulse} {one other : Moment}
    (here : one ∈ (fresh general).moments impulses)
    (there : other ∈ (fresh general).moments impulses) {uri : Uri} {ticket : Nat}
    (launches : one.Launches uri ticket) : ¬ other.Aborts uri ticket := by
  rintro ⟨had, gone, unlaunched⟩
  obtain ⟨first, atFirst⟩ := List.mem_iff_getElem?.mp here
  obtain ⟨last, atLast⟩ := List.mem_iff_getElem?.mp there
  rcases Nat.lt_trichotomy first last with earlier | same | later
  · exact ticket_gone atFirst atLast earlier launches.2 launches.gone had
  · subst same
    obtain rfl := Option.some.inj (atFirst.symm.trans atLast)
    exact unlaunched launches
  · exact ticket_gone atLast atFirst later had gone launches.2

/-! ### Runs -/

/-- The name of a file that a moment makes is the name of no other file. -/
def Moment.NamesAfresh (moment : Moment) : Prop :=
  ∀ call ∈ moment.calls, moment.session.scratch.get? call.file = none

instance (moment : Moment) : Decidable moment.NamesAfresh :=
  inferInstanceAs (Decidable (∀ call ∈ moment.calls, moment.session.scratch.get? call.file = none))

/-- The files are those of the calls in flight. -/
structure Supplied (past : List Moment) (session : Session) : Prop where
  numbered : session.Numbered
  files : session.scratch.entries = (inFlight past).map fun call => (call.file, call.contents)
  holds : ∀ id file,
    session.file? id = some file ↔ ∃ call ∈ inFlight past, call.id = id ∧ call.file = file
  ids : ((inFlight past).map (·.id)).Nodup
  names : ((inFlight past).map (·.file)).Nodup

namespace Supplied

variable {past : List Moment} {moment : Moment}

theorem has_file (supplied : Supplied past moment.session) {call : Invocation}
    (flies : call ∈ inFlight past) : moment.session.file? call.id = some call.file :=
  (supplied.holds _ _).mpr ⟨call, flies, rfl, rfl⟩

/-- Where no call stops, those in flight stay so. -/
theorem inFlight_of_unused (supplied : Supplied past moment.session)
    (unused : ∀ id, moment.impulse.stops id = true → moment.session.file? id = none) :
    inFlight (past ++ [moment]) = inFlight past ++ moment.calls := by
  rw [inFlight_append, List.filter_eq_self.mpr]
  intro call flies
  cases stops : moment.impulse.stops call.id with
  | false => rfl
  | true =>
    have without := unused call.id stops
    rw [supplied.has_file flies] at without
    cases without

/-- A call in flight is known by its file. -/
theorem file_eq_iff (supplied : Supplied past moment.session) {id : OperationId} {file : Path}
    (had : moment.session.file? id = some file) {call : Invocation} (flies : call ∈ inFlight past) :
    call.file = file ↔ call.id = id := by
  obtain ⟨owner, present, rfl, rfl⟩ := (supplied.holds id file).mp had
  constructor
  · intro same
    rw [List.inj_on_of_nodup_map supplied.names flies present same]
  · intro same
    rw [List.inj_on_of_nodup_map supplied.ids flies present same]

theorem after_makes (supplied : Supplied past moment.session) (afresh : moment.NamesAfresh)
    {call : Invocation} (unstopped : ∀ id, moment.impulse.stops id = false)
    (calls : moment.calls = [call]) (without : moment.session.file? call.id = none)
    (files : moment.after.scratch = moment.session.scratch.put call.file call.contents)
    (holds : ∀ id,
      moment.after.file? id = if id = call.id then some call.file else moment.session.file? id) :
    Supplied (past ++ [moment]) moment.after := by
  have flight : inFlight (past ++ [moment]) = inFlight past ++ [call] := by
    rw [supplied.inFlight_of_unused (by simp [unstopped]), calls]
  have absent := afresh call (by simp [calls])
  have newId : ∀ other ∈ inFlight past, other.id ≠ call.id := by
    intro other flies same
    rw [← same, supplied.has_file flies] at without
    cases without
  have newName : ∀ other ∈ inFlight past, other.file ≠ call.file := by
    intro other flies same
    have known : call.file ∈ moment.session.scratch.keys := by
      rw [Table.keys, supplied.files, List.map_map]
      exact List.mem_map.mpr ⟨other, flies, same⟩
    rw [Table.mem_keys, Table.contains, absent] at known
    cases known
  refine ⟨moment.numbered_after supplied.numbered, ?_, ?_, ?_, ?_⟩
  · rw [files, Table.entries_put_of_absent absent, supplied.files, flight, List.map_append]
    rfl
  · intro id file
    rw [holds, flight]
    split
    · rename_i same
      subst same
      constructor
      · intro made
        exact ⟨call, by simp, rfl, Option.some.inj made⟩
      · rintro ⟨other, flies, same, rfl⟩
        rcases List.mem_append.mp flies with before | new
        · exact absurd same (newId other before)
        · rw [List.mem_singleton.mp new]
    · rename_i different
      rw [supplied.holds]
      constructor
      · rintro ⟨other, flies, rfl, rfl⟩
        exact ⟨other, List.mem_append_left _ flies, rfl, rfl⟩
      · rintro ⟨other, flies, rfl, rfl⟩
        rcases List.mem_append.mp flies with before | new
        · exact ⟨other, before, rfl, rfl⟩
        · exact absurd (congrArg Invocation.id (List.mem_singleton.mp new)) different
  · rw [flight, List.map_append]
    refine List.nodup_append.mpr ⟨supplied.ids, by simp, ?_⟩
    simpa using newId
  · rw [flight, List.map_append]
    refine List.nodup_append.mpr ⟨supplied.names, by simp, ?_⟩
    simpa using newName

theorem after_frees (supplied : Supplied past moment.session) {id : OperationId} {file : Path}
    (stops : ∀ other, moment.impulse.stops other = (id == other)) (silent : moment.calls = [])
    (had : moment.session.file? id = some file)
    (files : moment.after.scratch = moment.session.scratch.erase file)
    (holds : ∀ other,
      moment.after.file? other = if other = id then none else moment.session.file? other) :
    Supplied (past ++ [moment]) moment.after := by
  have flight : inFlight (past ++ [moment]) = (inFlight past).filter fun call => call.id ≠ id := by
    rw [inFlight_append, silent, List.append_nil]
    simp [stops, eq_comm, Bool.beq_eq_decide_eq]
  have flies : ∀ call, call ∈ inFlight (past ++ [moment]) ↔ call ∈ inFlight past ∧ call.id ≠ id := by
    simp [flight]
  refine ⟨moment.numbered_after supplied.numbered, ?_, ?_, ?_, ?_⟩
  · rw [files, flight, Table.erase, supplied.files, List.filter_map]
    refine congrArg (List.map _) (List.filter_congr ?_)
    intro call flies
    simp [supplied.file_eq_iff had flies]
  · intro other name
    rw [holds]
    split
    · rename_i same
      subst same
      simp only [reduceCtorEq, false_iff, flies]
      rintro ⟨call, ⟨-, different⟩, same, -⟩
      exact different same
    · rename_i different
      rw [supplied.holds]
      simp only [flies]
      constructor
      · rintro ⟨call, before, rfl, rfl⟩
        exact ⟨call, ⟨before, different⟩, rfl, rfl⟩
      · rintro ⟨call, ⟨before, -⟩, rfl, rfl⟩
        exact ⟨call, before, rfl, rfl⟩
  · rw [flight]
    exact supplied.ids.sublist (List.filter_sublist.map _)
  · rw [flight]
    exact supplied.names.sublist (List.filter_sublist.map _)

theorem after (moment : Moment) (supplied : Supplied past moment.session)
    (afresh : moment.NamesAfresh) : Supplied (past ++ [moment]) moment.after := by
  cases moment.keeping supplied.numbered with
  | makes host input call uri document now unstopped found made calls without files holds =>
    exact supplied.after_makes afresh unstopped calls without files holds
  | frees id file stops silent had files holds =>
    exact supplied.after_frees stops silent had files holds
  | keeps unused silent files holds =>
    have flight : inFlight (past ++ [moment]) = inFlight past := by
      rw [supplied.inFlight_of_unused unused, silent, List.append_nil]
    refine ⟨moment.numbered_after supplied.numbered, ?_, ?_, ?_, ?_⟩
    · rw [files, flight, supplied.files]
    · intro id file
      rw [holds, flight, supplied.holds]
    · exact flight ▸ supplied.ids
    · exact flight ▸ supplied.names

end Supplied

theorem supplied_run (general : Settings) (impulses : List Impulse)
    (afresh : ∀ moment ∈ (fresh general).moments impulses, moment.NamesAfresh) :
    Supplied ((fresh general).moments impulses) ((fresh general).after impulses) := by
  refine run_induction
    (motive := fun past session => (∀ moment ∈ past, moment.NamesAfresh) → Supplied past session)
    ?_ [] (fresh general) ?_ impulses afresh
  · intro past session impulse before afresh
    have supplied := before fun moment member => afresh moment (List.mem_append_left _ member)
    exact Supplied.after ⟨session, impulse⟩ supplied (afresh _ (by simp))
  · intro _
    exact ⟨numbered_fresh general, rfl, by simp [file?, fresh, inFlight], List.nodup_nil,
      List.nodup_nil⟩

/-- A file is made with the text that the document of its operation has, under the name that the
surroundings gave; where they give none, there is no call and no file. -/
theorem Moment.Keeping.supplies {moment : Moment} (keeping : moment.Keeping) :
    (∀ call ∈ moment.calls,
        (∃ host input, moment.impulse = .input host input ∧
          host.scratch call.id = some call.file) ∧
        ∃ uri document, moment.after.subject? call.id = some uri ∧
          moment.after.documents.get? uri = some document ∧ document.text = call.contents) ∧
      (moment.calls = [] → moment.after.scratch.entries ⊆ moment.session.scratch.entries) := by
  cases keeping with
  | makes host input call uri document now _ _ made calls _ _ _ about present text =>
    rw [calls]
    refine ⟨?_, by simp⟩
    intro other member
    obtain rfl := List.mem_singleton.mp member
    exact ⟨⟨host, input, now, made⟩, uri, document, about, present, text⟩
  | frees id file _ silent _ files =>
    rw [silent, files]
    exact ⟨by simp, fun _ => List.filter_subset_self _⟩
  | keeps _ silent files =>
    rw [silent, files]
    exact ⟨by simp, fun _ => List.Subset.refl _⟩

/-- An operation keeps its file until its call ends or nobody waits for it any more. -/
theorem Moment.Keeping.file_kept {moment : Moment} (keeping : moment.Keeping) {id : OperationId}
    {file : Path} (had : moment.session.file? id = some file)
    (unstopped : moment.impulse.stops id = false) : moment.after.file? id = some file := by
  cases keeping with
  | makes _ _ call _ _ _ _ _ _ _ without _ holds =>
    rw [holds, if_neg, had]
    intro same
    rw [same, without] at had
    cases had
  | frees other _ stops _ _ _ holds =>
    rw [stops, beq_eq_false_iff_ne] at unstopped
    rw [holds, if_neg (Ne.symm unstopped), had]
  | keeps _ _ _ holds => rw [holds, had]

/-- In every run in which files get fresh names, the files after it are those of the calls in flight,
one for each, with the text that the document of the call had when it began. A call is made only with
a file that could be made, and without a call no file is made. A file goes when its call ends or is
given up, and the register drops no task that it has let run. -/
theorem files_of_calls_in_flight (general : Settings) (impulses : List Impulse) :
    let run := (fresh general).moments impulses
    (∀ moment ∈ run, moment.NamesAfresh) →
      (((fresh general).after impulses).scratch.entries =
          (inFlight run).map (fun call => (call.file, call.contents)) ∧
        ((inFlight run).map (·.file)).Nodup ∧ ((inFlight run).map (·.id)).Nodup) ∧
      (∀ moment ∈ run,
        (∀ call ∈ moment.calls,
          (∃ host input, moment.impulse = .input host input ∧
            host.scratch call.id = some call.file) ∧
          ∃ uri document, moment.after.subject? call.id = some uri ∧
            moment.after.documents.get? uri = some document ∧ document.text = call.contents) ∧
        (moment.calls = [] → moment.after.scratch.entries ⊆ moment.session.scratch.entries) ∧
        ∀ id file, moment.session.file? id = some file → moment.impulse.stops id = false →
          moment.after.file? id = some file) ∧
      ∀ one ∈ run, ∀ other ∈ run, ∀ uri ticket,
        one.Launches uri ticket → ¬ other.Aborts uri ticket := by
  intro run afresh
  have supplied := supplied_run general impulses afresh
  refine ⟨⟨supplied.files, supplied.names, supplied.ids⟩, ?_, ?_⟩
  · intro moment member
    obtain ⟨place, here⟩ := List.mem_iff_getElem?.mp member
    have keeping := moment.keeping (numbered_at here)
    obtain ⟨made, without⟩ := keeping.supplies
    exact ⟨made, without, fun id file had unstopped => keeping.file_kept had unstopped⟩
  · intro one here other there uri ticket
    exact not_aborts_of_launches here there

/-- A document is checked and asked about at once. It is then changed and comes to rest, the first
check ends without a result, and the document is changed again. -/
def crossingRun (host : Host) (uri : Uri) : List Impulse :=
  [.input host (.start (.open uri "x" 1)), .input host (.start (.ask uri (.symbol 1 0))),
    .input host (.start (.change uri "xy" 2)), .input host (.rested uri 0),
    .input host (.ended 0 (.error (.timeout 10000000000))), .input host (.start (.change uri "xyz" 3))]

/-- The question and the second check are in flight, with the texts that the document had when they
began; the second change does not drop the task of the first. -/
theorem files_of_calls_in_flight_crossing :
    let names := ["/tmp/a.volta", "/tmp/b.volta", "/tmp/c.volta", "/tmp/d.volta"]
    let impulses := crossingRun ⟨fun _ => some "/bin/volta", fun id => names[id]?⟩ ⟨"file:///a"⟩
    let run := (fresh {}).moments impulses
    (∀ moment ∈ run, moment.NamesAfresh) ∧
      (inFlight run).map (·.id) = [1, 3] ∧
      ((fresh {}).after impulses).scratch.entries =
        [("/tmp/b.volta", "x"), ("/tmp/d.volta", "xy")] ∧
      ∀ other ∈ run, ¬ other.Aborts ⟨"file:///a"⟩ 0 := by
  intro names impulses run
  have afresh : ∀ moment ∈ run, moment.NamesAfresh := by decide +kernel
  obtain ⟨⟨files, -⟩, -, unaborted⟩ := files_of_calls_in_flight {} impulses afresh
  refine ⟨afresh, by decide +kernel, files.trans (by decide +kernel), ?_⟩
  intro other there
  refine unaborted run[3] (List.getElem_mem (by decide)) other there ⟨"file:///a"⟩ 0 ?_
  exact ⟨⟨_, rfl⟩, by decide +kernel⟩

end LanguageServer.Session
