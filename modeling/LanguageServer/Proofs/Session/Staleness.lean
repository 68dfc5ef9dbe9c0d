import LanguageServer.Proofs.Session.Lifetime
import LanguageServer.Proofs.Session.Publication
import LanguageServer.Proofs.Session.Upshot

/-! When the result of a check is stale. It is published exactly if, since the check drew its
revision, its document has not been closed and has drawn no other. -/

namespace LanguageServer.Session

/-! ### Checks under way -/

/-- A check that is under way after a moment was under way before, or has just drawn its revision. -/
theorem Moment.checking_after {moment : Moment} (numbered : moment.session.Numbered)
    {id : OperationId} {check : Check}
    (checks : moment.after.standing? id = some (.checking check)) :
    moment.session.standing? id = some (.checking check) ∨
      moment.Draws id check.uri check.revision := by
  cases moment.shift numbered id with
  | stays same => exact .inl (same ▸ checks)
  | begins undrawn uri cause waits =>
    rw [waits] at checks
    cases checks
  | turns turn has same =>
    subst same
    right
    cases moment.upshot has with
    | skipped missing kept gone =>
      rw [gone] at checks
      cases checks
    | failed missing drawn gone =>
      rw [gone] at checks
      cases checks
    | called executable file document found made present drawn called calls =>
      rw [called] at checks
      cases checks
      exact ⟨⟨turn, has, rfl, rfl⟩, Nat.lt_succ_self _, drawn⟩
  | ends host ending ended now was gone =>
    rw [gone] at checks
    cases checks
  | leaves host now gone =>
    rw [gone] at checks
    cases checks

/-- Operations have numbers of their own and checks have revisions of their own. -/
structure Revised (session : Session) : Prop where
  numbered : session.Numbered
  drawn : ∀ id check, session.standing? id = some (.checking check) →
    check.revision ≤ session.revision
  distinct : ∀ first second check other, session.standing? first = some (.checking check) →
    session.standing? second = some (.checking other) → check.revision = other.revision →
    first = second

theorem Revised.after (moment : Moment) (revised : moment.session.Revised) :
    moment.after.Revised := by
  have numbered := revised.numbered
  refine ⟨moment.numbered_after numbered, ?_, ?_⟩
  · intro id check checks
    rcases Moment.checking_after numbered checks with before | draws
    · exact Nat.le_trans (revised.drawn id check before) moment.revision_le_after
    · exact Nat.le_of_eq draws.2.2.symm
  · intro first second check other checks others same
    rcases Moment.checking_after numbered checks with before | draws
    · rcases Moment.checking_after numbered others with otherBefore | otherDraws
      · exact revised.distinct first second check other before otherBefore same
      · have bounded := revised.drawn first check before
        have newer := otherDraws.2.1
        omega
    · rcases Moment.checking_after numbered others with otherBefore | otherDraws
      · have bounded := revised.drawn second other otherBefore
        have newer := draws.2.1
        omega
      · obtain ⟨⟨turn, has, rfl, -⟩, -⟩ := draws
        obtain ⟨⟨otherTurn, otherHas, rfl, -⟩, -⟩ := otherDraws
        rw [Option.some.inj (has.symm.trans otherHas)]

theorem revised_fresh (general : Settings) : (fresh general).Revised :=
  ⟨numbered_fresh general, (fun _ _ checks => nomatch checks),
    (fun _ _ _ _ checks => nomatch checks)⟩

/-! ### Revisions of what is published -/

/-- What was published about a document has revisions that increase, and a check that is still the
latest of its document has a revision above all of them. -/
structure Recorded (past : List Moment) (session : Session) : Prop where
  revised : session.Revised
  drawn : ∀ uri, ∀ publication ∈ publishedAbout uri past,
    publication.check.revision ≤ session.revision
  newer : ∀ id check, session.standing? id = some (.checking check) →
    session.latest.get? check.uri = some check.revision →
    ∀ publication ∈ publishedAbout check.uri past, publication.check.revision < check.revision
  increasing : ∀ uri, ((publishedAbout uri past).map (·.check.revision)).Pairwise (· < ·)

/-- A publication of a moment is that of a check under way which is the latest of its document. -/
theorem Moment.published_checking {moment : Moment} {publication : Publication}
    (published : publication ∈ moment.published) :
    ∃ id, moment.session.standing? id = some (.checking publication.check) ∧
      moment.session.latest.get? publication.check.uri = some publication.check.revision ∧
      moment.after.standing? id = none ∧ moment.published = [publication] := by
  rcases moment.published_cases with silent | ⟨host, id, output, check, now, waits, current, only⟩
  · rw [silent] at published
    cases published
  · rw [only] at published
    obtain rfl := List.mem_singleton.mp published
    refine ⟨id, standing?_eq_checking.mpr waits, ?_, ?_, only⟩
    · simp only [isCurrent, Bool.and_eq_true, beq_iff_eq] at current
      exact current.2
    · simp only [after, react, now, step, waits]
      exact (clears_checked ..).gone

namespace Recorded

variable {past : List Moment} {moment : Moment}

/-- A check that is the latest of its document after a moment is newer than all that is published. -/
theorem newer_after (recorded : Recorded past moment.session) {id : OperationId} {check : Check}
    (checks : moment.after.standing? id = some (.checking check))
    (latest : moment.after.latest.get? check.uri = some check.revision) {publication : Publication}
    (published : publication ∈ publishedAbout check.uri (past ++ [moment])) :
    publication.check.revision < check.revision := by
  have revised := recorded.revised
  rcases Moment.checking_after revised.numbered checks with under | draws
  · have stillLatest : moment.session.latest.get? check.uri = some check.revision := by
      refine Decidable.byContradiction fun superseded => ?_
      exact Moment.latest_superseded (revised.drawn id check under) superseded latest
    rcases mem_publishedAbout_append.mp published with before | ⟨now, same⟩
    · exact recorded.newer id check under stillLatest publication before
    · -- Two checks that are the latest of one document are one, and this one is not at its end.
      obtain ⟨ended, endedChecks, endedLatest, gone, -⟩ := Moment.published_checking now
      rw [same] at endedLatest
      have equal := Option.some.inj (endedLatest.symm.trans stillLatest)
      rw [revised.distinct ended id _ _ endedChecks under equal, checks] at gone
      cases gone
  · have newer := draws.2.1
    rcases mem_publishedAbout_append.mp published with before | ⟨now, -⟩
    · exact Nat.lt_of_le_of_lt (recorded.drawn _ publication before) newer
    · obtain ⟨ended, endedChecks, -⟩ := Moment.published_checking now
      exact Nat.lt_of_le_of_lt (revised.drawn ended _ endedChecks) newer

theorem increasing_after (recorded : Recorded past moment.session) (uri : Uri) :
    ((publishedAbout uri (past ++ [moment])).map (·.check.revision)).Pairwise (· < ·) := by
  rw [publishedAbout_append, List.map_append, List.pairwise_append]
  refine ⟨recorded.increasing uri, ?_, ?_⟩
  · cases now : moment.published with
    | nil => simp [publishedAbout, now]
    | cons publication rest =>
      obtain ⟨-, -, -, -, only⟩ := Moment.published_checking (now ▸ List.mem_cons_self ..)
      simp only [publishedAbout, List.flatMap_singleton, only]
      exact (List.pairwise_singleton ..).sublist ((List.filter_sublist ..).map _)
  · intro earlier old later new
    obtain ⟨previous, member, rfl⟩ := List.mem_map.mp old
    obtain ⟨publication, now, rfl⟩ := List.mem_map.mp new
    have fresh : publication ∈ moment.published ∧ publication.check.uri = uri := by
      simpa [publishedAbout] using now
    obtain ⟨id, checks, latest, -⟩ := Moment.published_checking fresh.1
    exact recorded.newer id _ checks latest previous (fresh.2.symm ▸ member)

theorem after (recorded : Recorded past moment.session) :
    Recorded (past ++ [moment]) moment.after := by
  have revised := recorded.revised
  refine ⟨revised.after moment, ?_, ?_, recorded.increasing_after⟩
  · intro uri publication published
    refine Nat.le_trans ?_ moment.revision_le_after
    rcases mem_publishedAbout_append.mp published with before | ⟨now, -⟩
    · exact recorded.drawn uri publication before
    · obtain ⟨id, checks, -⟩ := Moment.published_checking now
      exact revised.drawn id _ checks
  · intro id check checks latest publication published
    exact recorded.newer_after checks latest published

end Recorded

theorem recorded_run (general : Settings) (impulses : List Impulse) :
    Recorded ((fresh general).moments impulses) ((fresh general).after impulses) := by
  refine run_induction (motive := Recorded) ?_ [] (fresh general) ?_ impulses
  · intro past session impulse recorded
    exact Recorded.after recorded
  · exact ⟨revised_fresh general, (fun _ _ member => nomatch member),
      (fun _ _ checks => nomatch checks), fun _ => List.Pairwise.nil⟩

/-! ### From the drawing of a revision to the end of the call -/

/-- A validation has drawn a revision. From then on it waits for the compiler, if it is under way. -/
structure Drawn (session : Session) (id : OperationId) (uri : Uri) (revision : Nat) : Prop where
  numbered : session.Numbered
  number : id < session.nextOperation
  revised : revision ≤ session.revision
  stands : ∀ standing, session.standing? id = some standing →
    ∃ check, standing = .checking check ∧ check.uri = uri ∧ check.revision = revision

/-- What would make the result of a validation stale: another validation of its document draws a
revision, or the document is closed. -/
def Moment.Disturbs (moment : Moment) (id : OperationId) (uri : Uri) : Prop :=
  (∃ other revision, other ≠ id ∧ moment.Draws other uri revision) ∨ moment.Closes uri

theorem Moment.drawn_after {moment : Moment} (numbered : moment.session.Numbered)
    {id : OperationId} {uri : Uri} {revision : Nat} (draws : moment.Draws id uri revision) :
    moment.after.Drawn id uri revision := by
  obtain ⟨next, -⟩ := Moment.after_draw draws
  obtain ⟨⟨turn, has, rfl, rfl⟩, newer, drawn⟩ := draws
  refine ⟨moment.numbered_after numbered, Moment.turn_number numbered has, Nat.le_of_eq drawn.symm,
    ?_⟩
  intro standing stands
  cases moment.upshot has with
  | skipped missing kept gone =>
    rw [kept] at drawn
    omega
  | failed missing again gone =>
    rw [gone] at stands
    cases stands
  | called executable file document found made present again checks calls =>
    rw [checks] at stands
    exact ⟨_, (Option.some.inj stands).symm, rfl, next.symm⟩

namespace Drawn

variable {id : OperationId} {uri : Uri} {revision : Nat}

theorem not_turned {moment : Moment} (drawn : moment.session.Drawn id uri revision) {turn : Turn}
    (has : moment.turn? = some turn) : turn.id ≠ id := by
  rintro rfl
  rcases moment.turn_standing has with ⟨new, -⟩ | waits
  · exact Nat.ne_of_lt drawn.number new
  · obtain ⟨check, checks, -⟩ := drawn.stands _ waits
    cases checks

theorem after (moment : Moment) (drawn : moment.session.Drawn id uri revision) :
    moment.after.Drawn id uri revision := by
  have numbered := drawn.numbered
  refine ⟨moment.numbered_after numbered,
    Nat.lt_of_lt_of_le drawn.number (moment.number_le_after numbered),
    Nat.le_trans drawn.revised moment.revision_le_after, ?_⟩
  intro standing stands
  cases moment.shift numbered id with
  | stays same => exact drawn.stands standing (same ▸ stands)
  | begins undrawn uri cause waits => exact absurd drawn.number (Nat.not_lt_of_le undrawn)
  | turns turn has same => exact absurd same (drawn.not_turned has)
  | ends host ending ended now was gone =>
    rw [gone] at stands
    cases stands
  | leaves host now gone =>
    rw [gone] at stands
    cases stands

/-- A revision stays the latest of its document until something disturbs it, and only so long. -/
theorem latest_after_iff (moment : Moment) (drawn : moment.session.Drawn id uri revision) :
    moment.after.latest.get? uri = some revision ↔
      moment.session.latest.get? uri = some revision ∧ ¬ moment.Disturbs id uri := by
  constructor
  · intro latest
    refine ⟨?_, ?_⟩
    · refine Decidable.byContradiction fun superseded => ?_
      exact Moment.latest_superseded drawn.revised superseded latest
    · rintro (⟨other, newer, -, draws⟩ | closes)
      · obtain ⟨next, newest, -⟩ := Moment.after_draw draws
        have same := Option.some.inj (newest.symm.trans latest)
        have old := drawn.revised
        omega
      · rw [Moment.latest_closed closes] at latest
        cases latest
  · rintro ⟨latest, undisturbed⟩
    rw [Moment.latest_undisturbed _ fun closes => undisturbed (.inr closes)]
    · exact latest
    · rintro ⟨other, newer, draws⟩
      refine undisturbed (.inl ⟨other, newer, ?_, draws⟩)
      obtain ⟨⟨turn, has, rfl, -⟩, -⟩ := draws
      exact drawn.not_turned has

/-- Over a whole run, a revision stays the latest of its document exactly if nothing disturbs it. -/
theorem run {session : Session} (drawn : session.Drawn id uri revision) (impulses : List Impulse) :
    (session.after impulses).Drawn id uri revision ∧
      ((session.after impulses).latest.get? uri = some revision ↔
        session.latest.get? uri = some revision ∧
          ∀ moment ∈ session.moments impulses, ¬ moment.Disturbs id uri) := by
  induction impulses generalizing session with
  | nil => simpa using drawn
  | cons impulse rest ih =>
    have next : (session.react impulse).1.Drawn id uri revision :=
      drawn.after ⟨session, impulse⟩
    have kept : (session.react impulse).1.latest.get? uri = some revision ↔
        session.latest.get? uri = some revision ∧ ¬ Moment.Disturbs ⟨session, impulse⟩ id uri :=
      drawn.latest_after_iff ⟨session, impulse⟩
    obtain ⟨later, stays⟩ := ih next
    refine ⟨later, ?_⟩
    rw [after_cons, stays, kept, moments_cons, List.forall_mem_cons, and_assoc]

end Drawn

/-! ### The end of the call -/

def Effect.outcome? (id : OperationId) : Effect → Option Outcome
  | .done other (.outcome outcome) => if other = id then outcome else none
  | _ => none

namespace Moment

def outcomes (moment : Moment) (id : OperationId) : List Outcome :=
  moment.effects.filterMap (Effect.outcome? id)

/-- The moment at which the call of a validation ends with an output. -/
def EndsCall (moment : Moment) (id : OperationId) (output : Compiler.Output) : Prop :=
  (∃ host, moment.impulse = .input host (.ended id (.ok output))) ∧
    ∃ check, moment.session.operations.get? id = some (.checking check)

/-- A validation shows what its call found, up to its limit, and this is its outcome. -/
def Shows (moment : Moment) (id : OperationId) (uri : Uri) (revision : Nat)
    (output : Compiler.Output) : Prop :=
  ∃ check shown, check.uri = uri ∧ check.revision = revision ∧
    shown = (Diagnostic.ofReport output.stderr.toList).take check.limit ∧
    moment.published = [⟨check, shown⟩] ∧ moment.outcomes id = [.published shown.length]

/-- A validation shows nothing since it is stale. -/
def Drops (moment : Moment) (id : OperationId) : Prop :=
  moment.published = [] ∧ moment.outcomes id = [.stale]

end Moment

theorem outcomes_conclude (session : Session) (id : OperationId) (cause : Cause)
    (outcome : Outcome) :
    (session.conclude id cause outcome).2.filterMap (Effect.outcome? id) = [outcome] := by
  cases cause with
  | change change =>
    have silent : ((session.finish id).release change).2.filterMap (Effect.outcome? id) = [] := by
      unfold release
      split
      · dsimp only
        split <;> rfl
      · rfl
    simp [conclude, Effect.outcome?, silent]
  | asked => simp [conclude, Effect.outcome?]
  | rest => simp [conclude, Effect.outcome?]

namespace Moment

variable {moment : Moment} {id : OperationId} {check : Check} {output : Compiler.Output} {host : Host}

theorem effects_of_ended (now : moment.impulse = .input host (.ended id (.ok output)))
    (waits : moment.session.operations.get? id = some (.checking check)) :
    moment.effects = (moment.session.checked id check (.ok output)).2 := by
  simp only [effects, react, now, step, waits]

theorem shows_of_current (now : moment.impulse = .input host (.ended id (.ok output)))
    (waits : moment.session.operations.get? id = some (.checking check))
    (current : moment.session.isCurrent check.uri check.revision = true) :
    let shown := (Diagnostic.ofReport output.stderr.toList).take check.limit
    moment.published = [⟨check, shown⟩] ∧ moment.outcomes id = [.published shown.length] := by
  have effects := effects_of_ended now waits
  rw [checked_current _ id check output current] at effects
  refine ⟨?_, ?_⟩
  · rw [published, effects]
    exact congrArg (List.cons _) (publications_conclude ..)
  · rw [outcomes, effects, List.filterMap_cons_none rfl]
    exact outcomes_conclude ..

theorem drops_of_stale (now : moment.impulse = .input host (.ended id (.ok output)))
    (waits : moment.session.operations.get? id = some (.checking check))
    (stale : moment.session.isCurrent check.uri check.revision = false) : moment.Drops id := by
  have effects := effects_of_ended now waits
  rw [checked_stale _ id check output stale] at effects
  refine ⟨?_, ?_⟩
  · rw [published, effects]
    exact publications_conclude ..
  · rw [outcomes, effects]
    exact outcomes_conclude ..

theorem Shows.not_drops {uri : Uri} {revision : Nat}
    (shown : moment.Shows id uri revision output) : ¬ moment.Drops id := by
  rintro ⟨silent, -⟩
  obtain ⟨check, diagnostics, -, -, -, published, -⟩ := shown
  rw [silent] at published
  cases published

end Moment

/-- Only documents that are open have a latest revision. -/
theorem isCurrent_iff {session : Session} (tidy : session.books.Tidy) (uri : Uri) (revision : Nat) :
    session.isCurrent uri revision = true ↔ session.latest.get? uri = some revision := by
  simp only [isCurrent, Bool.and_eq_true, beq_iff_eq, and_iff_right_iff_imp]
  intro latest
  exact tidy.latest uri ((Table.contains_iff ..).mpr ⟨revision, latest⟩)

/-- In every run, a validation whose call ends with an output shows what was found if and only if,
since it drew its revision, no other validation of its document has drawn one and the document has
not been closed; else it is stale and shows nothing. So the revisions of what is published about a
document increase. -/
theorem published_iff_undisturbed (general : Settings) (impulses : List Impulse) :
    (∀ earlier drawn between ended later id uri revision output,
      (fresh general).moments impulses = earlier ++ drawn :: (between ++ ended :: later) →
      drawn.Draws id uri revision → ended.EndsCall id output →
        (ended.Shows id uri revision output ↔ ∀ moment ∈ between, ¬ moment.Disturbs id uri) ∧
          (ended.Drops id ↔ ∃ moment ∈ between, moment.Disturbs id uri)) ∧
      ∀ uri, ((publishedAbout uri ((fresh general).moments impulses)).map
        (·.check.revision)).Pairwise (· < ·) := by
  refine ⟨?_, (recorded_run general impulses).increasing⟩
  intro earlier drawn between ended later id uri revision output run draws ends
  obtain ⟨before, rest, -, starts, remaining⟩ := moments_at _ _ earlier _ drawn run
  obtain ⟨during, -, meanwhile, reached, -⟩ := moments_at _ rest between later ended remaining
  have tidy : ended.session.books.Tidy := by
    have whole : (fresh general).moments impulses =
        (earlier ++ drawn :: between) ++ ended :: later := by simpa using run
    obtain ⟨past, -, -, reached, -⟩ := moments_at _ _ _ later ended whole
    exact reached ▸ tidy_run general past
  have numbered : drawn.session.Numbered := starts ▸ numbered_run general before
  obtain ⟨stands, latest⟩ := (Moment.drawn_after numbered draws).run during
  rw [meanwhile, ← reached] at latest
  rw [← reached] at stands
  obtain ⟨⟨host, now⟩, check, waits⟩ := ends
  obtain ⟨same, checks, rfl, rfl⟩ := stands.stands _ (standing?_eq_checking.mpr waits)
  obtain rfl := Standing.checking.inj checks
  have first := (Moment.after_draw draws).2.1
  by_cases undisturbed : ∀ moment ∈ between, ¬ moment.Disturbs id check.uri
  · have current := (isCurrent_iff tidy ..).mpr (latest.mpr ⟨first, undisturbed⟩)
    have shown : ended.Shows id check.uri check.revision output :=
      ⟨check, _, rfl, rfl, rfl, Moment.shows_of_current now waits current⟩
    refine ⟨iff_of_true shown undisturbed, iff_of_false shown.not_drops ?_⟩
    rintro ⟨moment, member, disturbs⟩
    exact undisturbed moment member disturbs
  · have stale : ended.session.isCurrent check.uri check.revision = false := by
      refine Bool.eq_false_iff.mpr fun current => ?_
      exact undisturbed (latest.mp ((isCurrent_iff tidy ..).mp current)).2
    have drops := Moment.drops_of_stale now waits stale
    refine ⟨iff_of_false (fun shown => shown.not_drops drops) undisturbed, iff_of_true drops ?_⟩
    refine Classical.byContradiction fun none => undisturbed ?_
    intro moment member disturbs
    exact none ⟨moment, member, disturbs⟩

/-- A document is validated again during the call of its first validation. Then both calls end. -/
def overlappingRun (host : Host) (uri : Uri) (output : Compiler.Output) : List Impulse :=
  [.input host (.start (.open uri "" 1)), .input host (.start (.validate uri)),
    .input host (.ended 0 (.ok output)), .input host (.ended 1 (.ok output))]

theorem published_iff_undisturbed_overlapping :
    let run := overlappingRun ⟨fun _ => some "/bin/volta", fun _ => some "/tmp/a.volta"⟩ ⟨"file:///a"⟩
      ⟨"", "", some 0⟩
    ∃ first second third fourth, (fresh {}).moments run = [first, second, third, fourth] ∧
      third.Drops 0 ∧ fourth.Shows 1 ⟨"file:///a"⟩ 2 ⟨"", "", some 0⟩ := by
  intro run
  have ends := (published_iff_undisturbed {} run).1
  refine ⟨_, _, _, _, rfl, ?_, ?_⟩
  · have stale := ends [] _ [_] _ [_] 0 ⟨"file:///a"⟩ 1 ⟨"", "", some 0⟩ rfl
      ⟨⟨_, rfl, rfl, rfl⟩, by decide, rfl⟩ ⟨⟨_, rfl⟩, _, rfl⟩
    refine stale.2.mpr ⟨_, List.mem_singleton_self _, .inl ⟨1, 2, by decide, ?_⟩⟩
    exact ⟨⟨_, rfl, rfl, rfl⟩, by decide, rfl⟩
  · have current := ends [_] _ [_] _ [] 1 ⟨"file:///a"⟩ 2 ⟨"", "", some 0⟩ rfl
      ⟨⟨_, rfl, rfl, rfl⟩, by decide, rfl⟩ ⟨⟨_, rfl⟩, _, rfl⟩
    refine current.1.mpr fun moment member => ?_
    obtain rfl := List.mem_singleton.mp member
    rintro (⟨other, revision, -, ⟨turn, has, -⟩, -⟩ | ⟨host, now⟩)
    · cases has
    · cases now

end LanguageServer.Session
