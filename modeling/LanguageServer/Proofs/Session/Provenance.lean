import LanguageServer.Proofs.Session.Deed
import LanguageServer.Proofs.Session.Settling

/-! Where published diagnostics come from. Each publication goes back to one call of the compiler, and
the text and the version that it is about are those of the document when that call began. -/

namespace LanguageServer.Session

/-! ### The beginning of a call -/

namespace Moment

/-- A validation calls the compiler with the text of its document, and draws a revision. -/
structure Begins (moment : Moment) (turn : Turn) (check : Check) (text : String) : Prop where
  has : moment.turn? = some turn
  uri : check.uri = turn.uri
  limit : check.limit = turn.settings.maxDiagnostics
  found : turn.executable = some check.executable
  present : moment.after.documents.get? check.uri = some ⟨text, check.version⟩
  stored : moment.after.scratch.get? check.scratch = some text
  calls : moment.effects =
    [.call turn.id check.executable (Compiler.checkArguments check.scratch) text]
  draws : moment.Draws turn.id check.uri check.revision

/-- A validation that has its turn calls the compiler, or comes to its end and asks for nothing. -/
theorem begins_or_ends {moment : Moment} {turn : Turn} (has : moment.turn? = some turn) :
    (∃ check text, moment.Begins turn check text ∧
        moment.after.standing? turn.id = some (.checking check)) ∨
      moment.after.standing? turn.id = none ∧ Idle moment.effects := by
  obtain ⟨session, impulse⟩ := moment
  cases impulse with
  | support pulls => cases has
  | general settings => cases has
  | input host input =>
    obtain ⟨id, uri, cause, settings, rfl, same⟩ := step_of_turn has
    rcases check_cases host (session.prepared input) id uri cause settings with
      ⟨executable, file, document, found, made, present, -, stored, calls⟩ | ⟨ends, idle⟩
    · have called := check_called host (session.prepared input) id uri cause settings executable file
        document found present made
      refine .inl ⟨⟨uri, cause, (session.prepared input).revision + 1, document.version,
        settings.maxDiagnostics, executable, file⟩, document.text, ⟨has, rfl, rfl, found, ?_, ?_, ?_,
        ⟨_, has, rfl, rfl⟩, ?_, ?_⟩, ?_⟩
      · rw [after, react, same, called]
        exact present.trans (congrArg some document.mk_text_version.symm)
      · rw [after, react, same]
        exact stored
      · rw [effects, react, same]
        exact calls
      · rw [revision_prepared]
        exact Nat.lt_succ_self _
      · rw [after, react, same, called]
        rfl
      · rw [after, react, same, called]
        exact standing?_suspend_self ..
    · refine .inr ⟨?_, ?_⟩
      · have gone : (cause.settle ((session.prepared input).operations.erase id)).get? id = none := by
          rw [get?_settle, Table.get?_erase_self]
          split <;> rfl
        rw [standing?, after, react, same, ends]
        exact congrArg (·.bind Stage.standing?) gone
      · rw [effects, react, same]
        exact idle

/-- A check that is under way after a moment was under way before, or has just begun. -/
theorem checking_begins (moment : Moment) (numbered : moment.session.Numbered) {id : OperationId}
    {check : Check} (checks : moment.after.standing? id = some (.checking check)) :
    moment.session.standing? id = some (.checking check) ∨
      ∃ turn text, turn.id = id ∧ moment.Begins turn check text := by
  rcases checking_after numbered checks with before | ⟨⟨turn, has, rfl, -⟩, -⟩
  · exact .inl before
  · rcases begins_or_ends has with ⟨begun, text, begins, stands⟩ | ⟨gone, -⟩
    · obtain rfl := Standing.checking.inj (Option.some.inj (stands.symm.trans checks))
      exact .inr ⟨turn, text, rfl, begins⟩
    · rw [gone] at checks
      cases checks

/-- Every call that checks a file is that of a validation. -/
theorem begins_of_call {moment : Moment} (numbered : moment.session.Numbered) {id : OperationId}
    {executable file : Path} {text : String}
    (calls : .call id executable (Compiler.checkArguments file) text ∈ moment.effects) :
    ∃ turn check, turn.id = id ∧ moment.Begins turn check text := by
  have notIdle : ¬ Idle moment.effects := fun idle => idle _ calls trivial
  cases moment.deed numbered with
  | rests same idle => exact absurd idle notIdle
  | concludes ended cause endable ends idle => exact absurd idle notIdle
  | ends ended apart gone idle => exact absurd idle notIdle
  | leaves host left now gone idle => exact absurd idle notIdle
  | fansOut change base uris apart drawn number every waits result queues =>
    exact absurd (queues ▸ idle_fanOut base change uris) notIdle
  | prepares begun uri cause entitled pulled waits fetches => simp [fetches] at calls
  | wonders begun inquiry apart pulled waits fetches => simp [fetches] at calls
  | pulls general pulled number waits fetches => simp [fetches] at calls
  | returns change count waits gone done => simp [done] at calls
  | asks asked inquiry called scratch contents apart waits asks =>
    simp [asks, Compiler.checkArguments, Compiler.queryArguments] at calls
  | checks turn called scratch document has entitled waits stored called =>
    rcases begins_or_ends has with ⟨check, contents, begins, -⟩ | ⟨-, idle⟩
    · have same := calls
      rw [begins.calls, List.mem_singleton] at same
      obtain ⟨rfl, -, -, rfl⟩ := Effect.call.inj same
      exact ⟨turn, check, rfl, begins⟩
    · exact absurd idle notIdle

end Moment

/-! ### From the beginning of a call to its end -/

/-- The call that begins at one place of a run is the one that ends at another. -/
def CallSpans (run : List Moment) (first last : Nat) : Prop :=
  first < last ∧ ∃ called ended id executable file text output,
    run[first]? = some called ∧ run[last]? = some ended ∧
      .call id executable (Compiler.checkArguments file) text ∈ called.effects ∧
      ended.EndsCall id output

/-- A publication at one place of a run shows what the call found that began at another: its document
was open then, with the version that is published and the text that the compiler was given. -/
def StemsFrom (run : List Moment) (publication : Publication) (first last : Nat) : Prop :=
  first < last ∧ ∃ called ended turn text output,
    run[first]? = some called ∧ run[last]? = some ended ∧
      called.Begins turn publication.check text ∧ ended.EndsCall turn.id output ∧
      publication.diagnostics =
        (Diagnostic.ofReport output.stderr.toList).take turn.settings.maxDiagnostics

/-- A validation that has come to its end does not begin again. -/
structure Over (session : Session) (id : OperationId) : Prop where
  numbered : session.Numbered
  number : id < session.nextOperation
  gone : session.standing? id = none

theorem Over.after (moment : Moment) {id : OperationId} (ended : moment.session.Over id) :
    moment.after.Over id := by
  have numbered := ended.numbered
  refine ⟨moment.numbered_after numbered,
    Nat.lt_of_lt_of_le ended.number (moment.number_le_after numbered), ?_⟩
  cases moment.shift numbered id with
  | stays same => exact same.trans ended.gone
  | begins undrawn uri cause waits => exact absurd ended.number (Nat.not_lt_of_le undrawn)
  | turns turn has same =>
    subst same
    rcases moment.turn_standing has with ⟨new, -⟩ | waits
    · exact absurd new (Nat.ne_of_lt ended.number)
    · rw [ended.gone] at waits
      cases waits
  | ends host ending check now was gone => exact gone
  | leaves host now gone => exact gone

theorem Moment.EndsCall.over {moment : Moment} {id : OperationId} {output : Compiler.Output}
    (numbered : moment.session.Numbered) (ends : moment.EndsCall id output) :
    moment.after.Over id := by
  obtain ⟨⟨host, now⟩, check, waits⟩ := ends
  refine ⟨moment.numbered_after numbered,
    Nat.lt_of_lt_of_le (numbered.below waits) (moment.number_le_after numbered), ?_⟩
  simp only [after, react, now, step, waits]
  exact (clears_checked ..).gone

section Runs

variable {general : Settings} {impulses : List Impulse}

theorem numbered_at {place : Nat} {moment : Moment}
    (here : ((fresh general).moments impulses)[place]? = some moment) : moment.session.Numbered := by
  obtain ⟨before, rest, -, -, reached⟩ := moment_at_place here
  exact reached ▸ numbered_run general before

theorem call_unique {first second : Nat} {one other : Moment} {id : OperationId}
    {executable file : Path} {text : String} {otherExecutable otherFile : Path} {otherText : String}
    (here : ((fresh general).moments impulses)[first]? = some one)
    (there : ((fresh general).moments impulses)[second]? = some other)
    (calls : .call id executable (Compiler.checkArguments file) text ∈ one.effects)
    (again : .call id otherExecutable (Compiler.checkArguments otherFile) otherText ∈ other.effects) :
    ¬ first < second := by
  intro earlier
  obtain ⟨turn, check, rfl, begins⟩ := Moment.begins_of_call (numbered_at here) calls
  obtain ⟨next, _, same, begun⟩ := Moment.begins_of_call (numbered_at there) again
  obtain ⟨-, between, -, -, -, reached⟩ := moments_between here there earlier
  have drawn := ((Moment.drawn_after (numbered_at here) begins.draws).run between).1
  rw [← reached] at drawn
  exact drawn.not_turned begun.has same

theorem ending_unique {first second : Nat} {one other : Moment} {id : OperationId}
    {output otherOutput : Compiler.Output}
    (here : ((fresh general).moments impulses)[first]? = some one)
    (there : ((fresh general).moments impulses)[second]? = some other)
    (ends : one.EndsCall id output) (again : other.EndsCall id otherOutput) : ¬ first < second := by
  intro earlier
  obtain ⟨-, between, -, -, -, reached⟩ := moments_between here there earlier
  have ended : (one.after.after between).Over id :=
    after_induction (motive := fun session => session.Over id)
      (fun session impulse => Over.after ⟨session, impulse⟩) one.after (ends.over (numbered_at here))
      between
  rw [← reached] at ended
  obtain ⟨-, check, waits⟩ := again
  have stands := standing?_eq_checking.mpr waits
  rw [ended.gone] at stands
  cases stands

/-- Every check under way has begun at some place of the run. -/
theorem checking_began (general : Settings) (impulses : List Impulse) {id : OperationId}
    {check : Check} (checks : ((fresh general).after impulses).standing? id = some (.checking check)) :
    ∃ (first : Nat) (called : Moment) (turn : Turn) (text : String),
      ((fresh general).moments impulses)[first]? = some called ∧
        turn.id = id ∧ called.Begins turn check text := by
  refine (run_induction (motive := fun past session => session.Numbered ∧ ∀ id check,
    session.standing? id = some (.checking check) → ∃ (first : Nat) (called : Moment) (turn : Turn)
      (text : String), past[first]? = some called ∧ turn.id = id ∧ called.Begins turn check text)
    ?_ [] (fresh general) ⟨numbered_fresh general, ?_⟩ impulses).2 id check checks
  · rintro past session impulse ⟨numbered, began⟩
    refine ⟨Moment.numbered_after ⟨session, impulse⟩ numbered, ?_⟩
    intro id check checks
    rcases Moment.checking_begins ⟨session, impulse⟩ numbered checks with
      before | ⟨turn, text, same, begins⟩
    · obtain ⟨first, called, turn, text, here, found⟩ := began id check before
      obtain ⟨inside, -⟩ := List.getElem?_eq_some_iff.mp here
      exact ⟨first, called, turn, text, (List.getElem?_append_left inside).trans here, found⟩
    · exact ⟨past.length, _, turn, text, by simp, same, begins⟩
  · intro id check checks
    cases checks

/-- Every publication goes back to the beginning of a call. -/
theorem published_stems {last : Nat} {ended : Moment} {publication : Publication}
    (here : ((fresh general).moments impulses)[last]? = some ended)
    (published : publication ∈ ended.published) :
    ∃ first, StemsFrom ((fresh general).moments impulses) publication first last := by
  rcases ended.published_cases with silent | ⟨host, id, output, check, now, waits, current, only⟩
  · rw [silent] at published
    cases published
  · rw [only] at published
    obtain rfl := List.mem_singleton.mp published
    obtain ⟨before, rest, split, place, reached⟩ := moment_at_place here
    have stands := standing?_eq_checking.mpr waits
    rw [reached] at stands
    obtain ⟨first, called, turn, text, there, rfl, begins⟩ := checking_began general before stands
    obtain ⟨inside, -⟩ := List.getElem?_eq_some_iff.mp there
    refine ⟨first, ?_, called, ended, turn, text, output, ?_, here, begins,
      ⟨⟨host, now⟩, check, waits⟩, ?_⟩
    · rw [length_moments, place] at inside
      exact inside
    · rw [split, moments_append, List.getElem?_append_left inside]
      exact there
    · rw [← begins.limit]

end Runs

/-! ### Versions -/

def Entry.version? (uri : Uri) : Entry → Option Int
  | .opened other document => if other = uri then some document.version else none
  | .changed other _ version => if other = uri then some version else none
  | _ => none

def Impulse.version? (uri : Uri) : Impulse → Option Int
  | .input _ (.start (.open other _ version)) => if other = uri then some version else none
  | .input _ (.start (.change other _ version)) => if other = uri then some version else none
  | _ => none

/-- The versions of a document that are sent in a run, whether the document is open or not. -/
def versionsSent (uri : Uri) (impulses : List Impulse) : List Int :=
  impulses.filterMap (Impulse.version? uri)

theorem version?_entry (session : Session) (impulse : Impulse) (uri : Uri) :
    (session.entry impulse).version? uri = impulse.version? uri := by
  cases impulse with
  | support pulls => rfl
  | general settings => rfl
  | input host input =>
    cases input with
    | start request => cases request <;> rfl
    | settings id answer =>
      simp only [entry]
      split <;> rfl
    | _ => rfl

/-- A document that is open has the version that an entry brings, or was as it is before. -/
theorem version_enter (books : Books) (entry : Entry) (uri : Uri) (document : Document)
    (present : (books.enter entry).documents.get? uri = some document) :
    entry.version? uri = some document.version ∨ books.documents.get? uri = some document := by
  cases entry with
  | opened other opened =>
    simp only [Books.enter, Table.get?_put] at present
    split at present
    · rename_i same
      left
      simp [Entry.version?, same, Option.some.inj present]
    · exact .inr present
  | changed other text version =>
    cases known : books.documents.get? other with
    | none =>
      simp only [Books.enter, known] at present
      exact .inr present
    | some old =>
      simp only [Books.enter, known, Table.get?_put] at present
      split at present
      · rename_i same
        obtain rfl := Option.some.inj present
        left
        simp [Entry.version?, same, Document.update]
      · exact .inr present
  | closed other =>
    simp only [Books.enter, Table.get?_erase] at present
    split at present
    · cases present
    · exact .inr present
  | informed other settings =>
    simp only [Books.enter] at present
    split at present <;> exact .inr present
  | _ => exact .inr present

theorem Moment.version_after (moment : Moment) {uri : Uri} {document : Document}
    (present : moment.after.documents.get? uri = some document) :
    moment.impulse.version? uri = some document.version ∨
      moment.session.documents.get? uri = some document := by
  rw [moment.documents_after.1] at present
  rw [← version?_entry moment.session]
  exact version_enter _ _ uri document present

/-- The version of an open document was sent in the run, unless the document is as it was before. -/
theorem version_run (session : Session) (impulses : List Impulse) {uri : Uri} {document : Document}
    (present : (session.after impulses).documents.get? uri = some document) :
    document.version ∈ versionsSent uri impulses ∨
      session.documents.get? uri = some document := by
  induction impulses generalizing session with
  | nil => exact .inr present
  | cons impulse rest ih =>
    rcases ih _ present with sent | before
    · left
      rw [versionsSent, List.mem_filterMap] at sent ⊢
      obtain ⟨later, member, same⟩ := sent
      exact ⟨later, List.mem_cons_of_mem _ member, same⟩
    · rcases Moment.version_after ⟨session, impulse⟩ before with sent | earlier
      · exact .inl (List.mem_filterMap.mpr ⟨impulse, List.mem_cons_self .., sent⟩)
      · exact .inr earlier

theorem revision_le_run (session : Session) (impulses : List Impulse) :
    session.revision ≤ (session.after impulses).revision := by
  refine after_induction (motive := fun later => session.revision ≤ later.revision) ?_ session
    (Nat.le_refl _) impulses
  intro later impulse below
  exact Nat.le_trans below (Moment.revision_le_after ⟨later, impulse⟩)

section Versions

variable {general : Settings} {impulses : List Impulse} {first second : Nat} {one other : Moment}
  {turn otherTurn : Turn} {check otherCheck : Check} {text otherText : String}

/-- Calls begin in the order of their revisions. -/
theorem begins_in_order (here : ((fresh general).moments impulses)[first]? = some one)
    (there : ((fresh general).moments impulses)[second]? = some other)
    (begins : one.Begins turn check text) (begun : other.Begins otherTurn otherCheck otherText)
    (newer : check.revision < otherCheck.revision) : first < second := by
  have drawn : one.after.revision = check.revision := begins.draws.2.2
  have otherDrawn : other.after.revision = otherCheck.revision := begun.draws.2.2
  rcases Nat.lt_trichotomy first second with earlier | same | later
  · exact earlier
  · subst same
    obtain rfl := Option.some.inj (here.symm.trans there)
    omega
  · obtain ⟨-, between, -, -, -, reached⟩ := moments_between there here later
    have grown := revision_le_run other.after between
    rw [← reached] at grown
    have fresh := begins.draws.2.1
    omega

/-- If the versions that are sent do not decrease, a later call is about no lower version. -/
theorem version_le_of_earlier (here : ((fresh general).moments impulses)[first]? = some one)
    (there : ((fresh general).moments impulses)[second]? = some other) (earlier : first < second)
    (begins : one.Begins turn check text) (begun : other.Begins otherTurn otherCheck otherText)
    (same : check.uri = otherCheck.uri)
    (sorted : (versionsSent check.uri impulses).Pairwise (· ≤ ·)) :
    check.version ≤ otherCheck.version := by
  obtain ⟨before, between, rest, split, found, reached⟩ := moments_between here there earlier
  have present := begins.present
  have later := begun.present
  rw [← same] at later
  have origin : check.version ∈ versionsSent check.uri (before ++ [one.impulse]) := by
    have whole : one.after = (fresh general).after (before ++ [one.impulse]) := by
      simp [Moment.after, found, after]
    rw [whole] at present
    rcases version_run _ _ present with sent | absurdity
    · exact sent
    · cases absurdity
  have target : other.after = one.after.after (between ++ [other.impulse]) := by
    simp [Moment.after, reached, after]
  rw [target] at later
  rcases version_run _ _ later with sent | unchanged
  · have parts : versionsSent check.uri impulses =
        versionsSent check.uri (before ++ [one.impulse]) ++
          (versionsSent check.uri (between ++ [other.impulse]) ++ versionsSent check.uri rest) := by
      simp only [versionsSent, split, ← List.filterMap_append]
      simp
    rw [parts, List.pairwise_append] at sorted
    exact sorted.2.2 _ origin _ (List.mem_append_left _ sent)
  · obtain ⟨-, equal⟩ := Document.mk.inj (Option.some.inj (present.symm.trans unchanged))
    exact Int.le_of_eq equal

end Versions

theorem mem_publishedAbout {uri : Uri} {run : List Moment} {publication : Publication}
    (published : publication ∈ publishedAbout uri run) :
    ∃ (last : Nat) (ended : Moment), run[last]? = some ended ∧ publication ∈ ended.published ∧
      publication.check.uri = uri := by
  obtain ⟨member, about⟩ := List.mem_filter.mp published
  obtain ⟨ended, inside, now⟩ := List.mem_flatMap.mp member
  obtain ⟨last, here⟩ := List.mem_iff_getElem?.mp inside
  exact ⟨last, ended, here, now, of_decide_eq_true about⟩

/-- If the versions of a document that are sent do not decrease, those that are published do not. -/
theorem published_versions_sorted (general : Settings) (impulses : List Impulse) (uri : Uri)
    (sorted : (versionsSent uri impulses).Pairwise (· ≤ ·)) :
    ((publishedAbout uri ((fresh general).moments impulses)).map (·.check.version)).Pairwise
      (· ≤ ·) := by
  have increasing := (recorded_run general impulses).increasing uri
  rw [List.pairwise_map] at increasing ⊢
  refine increasing.imp_of_mem ?_
  intro publication next member nextMember newer
  obtain ⟨last, ended, here, now, about⟩ := mem_publishedAbout member
  obtain ⟨nextLast, nextEnded, nextHere, nextNow, nextAbout⟩ := mem_publishedAbout nextMember
  obtain ⟨first, -, called, -, turn, text, -, start, -, begins, -⟩ := published_stems here now
  obtain ⟨second, -, nextCalled, -, nextTurn, nextText, -, nextStart, -, nextBegins, -⟩ :=
    published_stems nextHere nextNow
  have earlier := begins_in_order start nextStart begins nextBegins newer
  exact version_le_of_earlier start nextStart earlier begins nextBegins (about.trans nextAbout.symm)
    (about ▸ sorted)

theorem StemsFrom.spans {run : List Moment} {publication : Publication} {first last : Nat}
    (stems : StemsFrom run publication first last) : CallSpans run first last := by
  obtain ⟨earlier, called, ended, turn, text, output, start, finish, begins, ends, -⟩ := stems
  refine ⟨earlier, called, ended, turn.id, publication.check.executable, publication.check.scratch,
    text, output, start, finish, ?_, ends⟩
  rw [begins.calls]
  exact List.mem_singleton_self _

section Spans

variable {general : Settings} {impulses : List Impulse} {first last other : Nat}

theorem CallSpans.first_unique (spans : CallSpans ((fresh general).moments impulses) first last)
    (again : CallSpans ((fresh general).moments impulses) other last) : other = first := by
  obtain ⟨-, called, ended, id, _, _, _, _, start, finish, calls, ⟨_, now⟩, -⟩ := spans
  obtain ⟨-, otherCalled, otherEnded, otherId, _, _, _, _, otherStart, otherFinish, otherCalls,
    ⟨_, otherNow⟩, -⟩ := again
  obtain rfl := Option.some.inj (finish.symm.trans otherFinish)
  rw [now] at otherNow
  obtain ⟨-, ⟨⟩⟩ := Impulse.input.inj otherNow
  have notBefore := call_unique start otherStart calls otherCalls
  have notAfter := call_unique otherStart start otherCalls calls
  omega

theorem CallSpans.last_unique (spans : CallSpans ((fresh general).moments impulses) first last)
    (again : CallSpans ((fresh general).moments impulses) first other) : other = last := by
  obtain ⟨-, called, ended, id, _, _, _, _, start, finish, calls, ends⟩ := spans
  obtain ⟨-, otherCalled, otherEnded, otherId, _, _, _, _, otherStart, otherFinish, otherCalls,
    otherEnds⟩ := again
  obtain rfl := Option.some.inj (start.symm.trans otherStart)
  obtain ⟨turn, check, rfl, begins⟩ := Moment.begins_of_call (numbered_at start) calls
  rw [begins.calls, List.mem_singleton] at otherCalls
  obtain ⟨rfl, -⟩ := Effect.call.inj otherCalls
  have notBefore := ending_unique finish otherFinish ends otherEnds
  have notAfter := ending_unique otherFinish finish otherEnds ends
  omega

end Spans

/-- In every run, a publication stems from one call of the compiler, and shows the first that this
call found in the text that the document had when it began, with the version of that text; no call is
published twice. If the versions of a document that are sent do not decrease, neither do those that
are published. -/
theorem publications_stem_from_calls (general : Settings) (impulses : List Impulse) :
    let run := (fresh general).moments impulses
    (∀ last ended publication, run[last]? = some ended → publication ∈ ended.published →
      ended.published = [publication] ∧ ∃ first, StemsFrom run publication first last ∧
        ∀ other, CallSpans run other last → other = first) ∧
      (∀ first last other, CallSpans run first last → CallSpans run first other → other = last) ∧
      ∀ uri, (versionsSent uri impulses).Pairwise (· ≤ ·) →
        ((publishedAbout uri run).map (·.check.version)).Pairwise (· ≤ ·) := by
  intro run
  refine ⟨?_, fun _ _ _ spans again => spans.last_unique again,
    published_versions_sorted general impulses⟩
  intro last ended publication here published
  obtain ⟨-, -, -, -, only⟩ := Moment.published_checking published
  obtain ⟨first, stems⟩ := published_stems here published
  exact ⟨only, first, stems, fun _ again => stems.spans.first_unique again⟩

/-- The document is changed while its first text is checked: both texts are published, in order. -/
theorem publications_stem_from_calls_changed :
    let impulses := changedRun ⟨fun _ => some "/bin/volta", fun _ => some "/tmp/a.volta"⟩
      ⟨"file:///a"⟩ ⟨"", "", some 0⟩
    let run := (fresh {}).moments impulses
    (∃ publication first, publication.check.version = 1 ∧ StemsFrom run publication first 2 ∧
        ∀ other, CallSpans run other 2 → other = first) ∧
      (publishedAbout ⟨"file:///a"⟩ run).map (·.check.version) = [1, 2] ∧
      ((publishedAbout ⟨"file:///a"⟩ run).map (·.check.version)).Pairwise (· ≤ ·) := by
  intro impulses run
  obtain ⟨stems, -, sorted⟩ := publications_stem_from_calls {} impulses
  refine ⟨?_, rfl, sorted ⟨"file:///a"⟩ ?_⟩
  · obtain ⟨-, first, source, unique⟩ := stems 2 _ _ rfl (List.mem_singleton_self _)
    exact ⟨_, first, rfl, source, unique⟩
  · have sent : versionsSent ⟨"file:///a"⟩ impulses = [1, 2] := rfl
    rw [sent]
    decide

end LanguageServer.Session
