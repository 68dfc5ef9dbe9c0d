import LanguageServer.Proofs.Scenario.Passage
import LanguageServer.Proofs.Scenario.Watch

/-! Documents at rest. A timed run of a session checks a document at rest exactly when the moves call
for it. -/

namespace LanguageServer.Scenario

open Session

/-- A check that was made because the document had been at rest: when, and of which text. -/
def atRest? : Nat × Sight → Option (Nat × String)
  | (time, .called true _ contents) => some (time, contents)
  | _ => none

namespace Portrait

variable {surroundings : Surroundings} {text : Option String} {due : Option Nat} {uri : Uri}
  {portrait next final : Portrait} {sights : List Sight} {log : List (Nat × Sight)}

/-- A portrait of a document that has a text and will have been at rest at a time. -/
structure Watched (surroundings : Surroundings) (text : Option String) (due : Option Nat)
    (portrait : Portrait) : Prop where
  shows : portrait.document.map (·.text) = text
  rests : ∀ time, (time, .rest) ∈ portrait.entries ↔ due = some time
  asked : ∀ entry ∈ portrait.entries, entry.2 ≠ .begin true
  located : (surroundings.locate portrait.general).isSome
  present : due.isSome → text.isSome

/-! ### Small steps -/

theorem mem_plan {now : Nat} {time : Agenda.When} {token : Token} {entry : Nat × Token} :
    entry ∈ (portrait.plan now time token).entries ↔
      entry = (time.due now, token) ∨ entry ∈ portrait.entries :=
  (Agenda.plan_perm ⟨now, portrait.entries⟩ time token).mem_iff.trans List.mem_cons

namespace Watched

theorem plan (watched : portrait.Watched surroundings text due) {now : Nat} {time : Agenda.When}
    {token : Token} (active : token ≠ .rest) (asked : token ≠ .begin true) :
    (portrait.plan now time token).Watched surroundings text due := by
  refine ⟨watched.shows, ?_, ?_, watched.located, watched.present⟩
  · intro other
    rw [mem_plan, watched.rests]
    constructor
    · rintro (same | waits)
      · exact absurd (congrArg Prod.snd same).symm active
      · exact waits
    · exact .inr
  · intro entry member
    rcases mem_plan.mp member with rfl | member
    · exact asked
    · exact watched.asked entry member

theorem shedCalls (watched : portrait.Watched surroundings text due) (calls : Bool) :
    (portrait.shed false calls).Watched surroundings text due := by
  refine ⟨watched.shows, ?_, ?_, watched.located, watched.present⟩
  · intro time
    rw [← watched.rests, shed, List.mem_filter]
    exact ⟨And.left, fun member => ⟨member, rfl⟩⟩
  · intro entry member
    exact watched.asked entry (List.mem_filter.mp member).1

theorem shedRests (watched : portrait.Watched surroundings text due) (calls : Bool) :
    (portrait.shed true calls).Watched surroundings text none := by
  refine ⟨watched.shows, ?_, ?_, watched.located, nofun⟩
  · intro time
    refine ⟨?_, nofun⟩
    intro member
    cases (List.mem_filter.mp member).2
  · intro entry member
    exact watched.asked entry (List.mem_filter.mp member).1

theorem withDocument (watched : portrait.Watched surroundings text due) (document : Option Document)
    (present : due.isSome → document.isSome) :
    { portrait with document := document }.Watched surroundings
      (document.map fun document : Document => document.text) due := by
  refine ⟨rfl, watched.rests, watched.asked, watched.located, ?_⟩
  intro waits
  rw [Option.isSome_map]
  exact present waits

theorem planRest (watched : portrait.Watched surroundings text none) (present : text.isSome)
    (now span : Nat) :
    (portrait.plan now (.after span) .rest).Watched surroundings text (some (now + span)) := by
  refine ⟨watched.shows, ?_, ?_, watched.located, fun _ => present⟩
  · intro time
    rw [mem_plan, watched.rests]
    constructor
    · rintro (same | absurdity)
      · exact congrArg some (congrArg Prod.fst same).symm
      · cases absurdity
    · intro same
      exact .inl (congrArg (·, Token.rest) (Option.some.inj same).symm)
  · intro entry member
    rcases mem_plan.mp member with rfl | member
    · nofun
    · exact watched.asked entry member

theorem validate (watched : portrait.Watched surroundings text due) {answer : Checker} {now : Nat}
    {atRest : Bool}
    (validates : portrait.validate surroundings answer now atRest = (next, sights)) :
    next.Watched surroundings text due ∧
      (sights.map (now, ·)).filterMap atRest? =
        if atRest then (text.map (now, ·)).toList else [] := by
  obtain ⟨executable, located⟩ := Option.isSome_iff_exists.mp watched.located
  have shown := watched.shows
  cases present : portrait.document with
  | none =>
    rw [present] at shown
    subst shown
    simp only [Portrait.validate, located, present] at validates
    obtain ⟨rfl, rfl⟩ := Prod.mk.inj validates
    refine ⟨watched, ?_⟩
    cases atRest <;> rfl
  | some document =>
    rw [present] at shown
    subst shown
    simp only [Portrait.validate, located, present] at validates
    obtain ⟨rfl, rfl⟩ := Prod.mk.inj validates
    refine ⟨(watched.shedCalls true).plan (by simp) (by simp), ?_⟩
    cases atRest <;> rfl

/-- Nothing is planned any more that was planned first, unless it was a rest. -/
theorem behind (watched : portrait.Watched surroundings text due) {time : Nat} {token : Token}
    {rest : List (Nat × Token)} (entries : portrait.entries = (time, token) :: rest)
    (active : token ≠ .rest) : { portrait with entries := rest }.Watched surroundings text due := by
  refine ⟨watched.shows, ?_, ?_, watched.located, watched.present⟩
  · intro other
    rw [← watched.rests, entries, List.mem_cons]
    constructor
    · exact .inr
    · rintro (same | member)
      · exact absurd (congrArg Prod.snd same).symm active
      · exact member
  · intro entry member
    exact watched.asked entry (entries ▸ List.mem_cons_of_mem _ member)

section

variable {time : Nat} {token : Token} {rest : List (Nat × Token)} {answer : Checker}

theorem take (watched : portrait.Watched surroundings text due)
    (entries : portrait.entries = (time, token) :: rest) (active : token ≠ .rest)
    (takes : { portrait with entries := rest }.take surroundings answer time token =
      (next, sights)) :
    next.Watched surroundings text due ∧ (sights.map (time, ·)).filterMap atRest? = [] := by
  have behind := watched.behind entries active
  cases token with
  | rest => exact absurd rfl active
  | begin atRest =>
    have asked : atRest ≠ true := by
      rintro rfl
      exact watched.asked _ (entries ▸ List.mem_cons_self ..) rfl
    have validated := behind.validate takes
    rw [if_neg asked] at validated
    exact validated
  | finish version limit ending =>
    obtain ⟨rfl, rfl⟩ := Prod.mk.inj takes
    refine ⟨behind, ?_⟩
    cases Compiler.diagnostics ending <;> rfl

theorem takeRest (watched : portrait.Watched surroundings text due)
    (entries : portrait.entries = (time, .rest) :: rest)
    (takes : { portrait with entries := rest }.take surroundings answer time .rest =
      (next, sights)) :
    due = some time ∧ next.Watched surroundings text none ∧
      (sights.map (time, ·)).filterMap atRest? = (text.map (time, ·)).toList := by
  have waits := (watched.rests time).mp (entries ▸ List.mem_cons_self ..)
  have shed : ({ portrait with entries := rest }.shed true false).Watched surroundings text none := by
    have all := watched.shedRests false
    have same : portrait.shed true false = { portrait with entries := rest }.shed true false := by
      rw [Portrait.shed, entries]
      rfl
    exact same ▸ all
  exact ⟨waits, shed.validate takes⟩

end

end Watched

/-! ### Time that passes -/

/-- While time passes, a document is checked at rest if that is due, and else not. -/
theorem Elapses.watched {watch : Watch}
    (elapses : portrait.Elapses surroundings watch.now log final)
    (watched : portrait.Watched surroundings watch.text watch.due) :
    final.Watched surroundings watch.fire.1.text watch.fire.1.due ∧
      log.filterMap atRest? = watch.fire.2 := by
  generalize last : watch.now = now at elapses
  induction elapses generalizing watch with
  | done settled =>
    have later : ∀ due, watch.due = some due → watch.now < due :=
      fun due waits => last ▸ settled _ ((watched.rests due).mpr waits)
    rw [Watch.fire_of_later later]
    exact ⟨watched, rfl⟩
  | @tick portrait next final time token rest sights log file entries reached takes further ih =>
    rw [List.filterMap_append]
    by_cases rests : token = .rest
    · subst rests
      obtain ⟨waits, kept, checked⟩ := watched.takeRest entries takes
      obtain ⟨finally_, nothing⟩ := @ih { watch with due := none } kept last
      rw [Watch.fire_of_due waits (last ▸ reached), checked, nothing]
      exact ⟨finally_, List.append_nil _⟩
    · obtain ⟨kept, unseen⟩ := watched.take entries rests takes
      rw [unseen]
      exact ih kept last

/-! ### Requests -/

/-- A change begins the rest of a document anew. -/
theorem Watched.receiveChange {watch : Watch}
    (watched : portrait.Watched surroundings watch.text watch.due) {answer : Checker} {other : Uri}
    {text : String} {version : Int}
    (receives : portrait.receive surroundings answer watch.now uri (.change other text version) =
      (next, sights)) :
    let acted := watch.act uri surroundings.rest (.start (.change other text version))
    next.Watched surroundings acted.text acted.due ∧
      (sights.map (watch.now, ·)).filterMap atRest? = [] := by
  intro acted
  have shown := watched.shows
  simp only [Portrait.receive] at receives
  cases present : portrait.document with
  | none =>
    rw [present] at receives shown
    obtain ⟨rfl, rfl⟩ := Prod.mk.inj receives
    have idle : watch.due = none := by
      cases waits : watch.due with
      | none => rfl
      | some due =>
        have text := watched.present (waits ▸ rfl)
        rw [← shown] at text
        cases text
    have same : acted.text = watch.text ∧ acted.due = watch.due := by
      simp [acted, Watch.act, Move.text?, ← shown, idle]
    rw [same.1, same.2]
    exact ⟨watched, rfl⟩
  | some document =>
    rw [present] at receives shown
    by_cases mine : other = uri
    · have changed : acted.text = some text ∧ acted.due = some (watch.now + surroundings.rest) := by
        simp [acted, Watch.act, Move.text?, Move.changes, ← shown, mine]
      simp only [mine, if_true] at receives
      obtain ⟨rfl, rfl⟩ := Prod.mk.inj receives
      rw [changed.1, changed.2]
      have edited := (watched.shedRests false).withDocument (some (document.update text version))
        (by simp)
      exact ⟨edited.planRest rfl watch.now surroundings.rest, rfl⟩
    · have same : acted.text = watch.text ∧ acted.due = watch.due := by
        simp [acted, Watch.act, Move.text?, Move.changes, Move.disturbs, mine]
      simp only [mine, if_false] at receives
      obtain ⟨rfl, rfl⟩ := Prod.mk.inj receives
      rw [same.1, same.2]
      exact ⟨watched, rfl⟩

/-- A request changes when a document will have been at rest, but does not check it at rest. -/
theorem Watched.receive {watch : Watch} (watched : portrait.Watched surroundings watch.text watch.due)
    {answer : Checker} {request : Request}
    (resolves : ∀ settings, request = .configure (some settings) →
      (surroundings.locate settings).isSome)
    (receives : portrait.receive surroundings answer watch.now uri request = (next, sights)) :
    let acted := watch.act uri surroundings.rest (.start request)
    next.Watched surroundings acted.text acted.due ∧
      (sights.map (watch.now, ·)).filterMap atRest? = [] := by
  intro acted
  cases request with
  | «open» other text version =>
    by_cases mine : other = uri
    · have shown : acted.text = some text := if_pos mine
      have opened : { portrait with document := some ⟨text, version⟩ }.Watched surroundings
          acted.text acted.due := shown ▸ watched.withDocument (some ⟨text, version⟩) fun _ => rfl
      simp only [Portrait.receive, mine, if_true] at receives
      split at receives
      · obtain ⟨rfl, rfl⟩ := Prod.mk.inj receives
        exact ⟨opened, rfl⟩
      · exact opened.validate receives
    · have shown : acted.text = watch.text := if_neg mine
      simp only [Portrait.receive, mine, if_false] at receives
      obtain ⟨rfl, rfl⟩ := Prod.mk.inj receives
      exact ⟨shown ▸ watched, rfl⟩
  | change other text version => exact watched.receiveChange receives
  | close other =>
    by_cases mine : other = uri
    · have shown : acted.text = none := if_pos mine
      have due : acted.due = none := by
        simp [acted, Watch.act, Move.changes, Move.disturbs, mine]
      simp only [Portrait.receive, mine, if_true] at receives
      obtain ⟨rfl, rfl⟩ := Prod.mk.inj receives
      rw [shown, due]
      exact ⟨(watched.shedRests true).withDocument none (by simp), rfl⟩
    · have shown : acted.text = watch.text := if_neg mine
      have due : acted.due = watch.due := by
        simp [acted, Watch.act, Move.changes, Move.disturbs, mine]
      simp only [Portrait.receive, mine, if_false] at receives
      obtain ⟨rfl, rfl⟩ := Prod.mk.inj receives
      rw [shown, due]
      exact ⟨watched, rfl⟩
  | shutdown =>
    obtain ⟨rfl, rfl⟩ := Prod.mk.inj receives
    exact ⟨watched.shedRests false, rfl⟩
  | validate other =>
    simp only [Portrait.receive] at receives
    split at receives
    · exact watched.validate receives
    · obtain ⟨rfl, rfl⟩ := Prod.mk.inj receives
      exact ⟨watched, rfl⟩
  | configure settings =>
    have changed : { portrait with general := settings.getD portrait.general }.Watched surroundings
        watch.text watch.due := by
      refine ⟨watched.shows, watched.rests, watched.asked, ?_, watched.present⟩
      cases settings with
      | none => exact watched.located
      | some settings => exact resolves settings rfl
    simp only [Portrait.receive] at receives
    split at receives
    · obtain ⟨rfl, rfl⟩ := Prod.mk.inj receives
      exact ⟨changed.plan (by simp) (by simp), rfl⟩
    · obtain ⟨rfl, rfl⟩ := Prod.mk.inj receives
      exact ⟨changed, rfl⟩
  | ask other question =>
    obtain ⟨rfl, rfl⟩ := Prod.mk.inj receives
    exact ⟨watched, rfl⟩

/-! ### Runs -/

/-- All settings that a configuration changes to lead to a compiler. -/
def Resolving (surroundings : Surroundings) (moves : List Move) : Prop :=
  ∀ settings, .start (.configure (some settings)) ∈ moves → (surroundings.locate settings).isSome

theorem Runs.watched {watch : Watch} {moves : List Move}
    (runs : portrait.Runs surroundings uri watch.now moves log)
    (watched : portrait.Watched surroundings watch.text watch.due)
    (resolving : Resolving surroundings moves) :
    log.filterMap atRest? = watch.run uri surroundings.rest moves := by
  generalize same : watch.now = now at runs
  induction runs generalizing watch with
  | nil => rfl
  | @start now portrait next settled request moves sights log rest file receives elapses further ih =>
    subst same
    obtain ⟨kept, unseen⟩ := watched.receive
      (fun settings configures => resolving settings (configures ▸ List.mem_cons_self ..)) receives
    have elapses : next.Elapses surroundings
        (watch.act uri surroundings.rest (.start request)).now log settled := elapses
    obtain ⟨fired, checked⟩ := elapses.watched kept
    have later := ih fired (fun settings member => resolving settings (List.mem_cons_of_mem _ member))
      (Watch.fire_kept _).1
    rw [Watch.run_cons, List.filterMap_append, List.filterMap_append, unseen, checked, later]
    rfl
  | @pass now time portrait settled moves log rest elapses further ih =>
    subst same
    have elapses : portrait.Elapses surroundings
        (watch.act uri surroundings.rest (.pass time)).now log settled := elapses
    obtain ⟨fired, checked⟩ := elapses.watched watched
    have later := ih fired (fun settings member => resolving settings (List.mem_cons_of_mem _ member))
      (Watch.fire_kept _).1
    rw [Watch.run_cons, List.filterMap_append, checked, later]

end Portrait

namespace Trial

/-- The checks of a document in a timed run that were made because it had been at rest. -/
def checkedAtRest (uri : Uri) (trial : Trial) (moves : List Move) : List (Nat × String) :=
  (trial.sightings uri moves).filterMap atRest?

/-- The checks at rest are those of a watch on the document. -/
theorem checkedAtRest_eq_run (world : World Result) (creatable : world.broken = false)
    (general : Settings) (resolves : (world.locate general).isSome) (uri : Uri) (moves : List Move)
    (resolving : Portrait.Resolving world.toSurroundings moves) :
    (start world general).checkedAtRest uri moves = Watch.run uri world.rest {} moves := by
  have watched : Portrait.Watched world.toSurroundings none none ⟨none, general, []⟩ :=
    ⟨rfl, fun _ => ⟨nofun, nofun⟩, nofun, resolves, nofun⟩
  exact Portrait.Runs.watched (runs_sightings world creatable general uri moves) watched resolving

theorem unconfigured_burst (uri : Uri) (edits : List (Nat × String × Int))
    (settings : Option Settings) : .start (.configure settings) ∉ burst uri edits := by
  intro member
  obtain ⟨edit, -, inside⟩ := List.mem_flatMap.mp member
  simp at inside

/-- A document is checked at rest exactly as its changes call for: after each change that was made
while it was open, when the document has been left alone for the time of a rest, with the text that it
then has. So changes in rapid succession lead to one check, of the last text, and changes of a document
that is not open lead to none. -/
theorem rested_documents_checked (world : World Result) (creatable : world.broken = false)
    (general : Settings) (resolves : (world.locate general).isSome) (uri : Uri) (moves : List Move)
    (resolving : Portrait.Resolving world.toSurroundings moves) :
    let checked := (start world general).checkedAtRest uri
    checked moves = checksAtRest uri world.rest [] moves ∧
      ((textAfter uri moves).isSome → ∀ text version edits,
        (∀ edit ∈ edits, edit.1 < world.rest) →
          checked (moves ++ .start (.change uri text version) ::
              (burst uri edits ++ [.pass world.rest])) =
            checked moves ++ [(elapsed moves + elapsed (burst uri edits) + world.rest,
              (edits.map (·.2.1)).getLastD text)]) ∧
      (textAfter uri moves = none → ∀ text version time,
        checked (moves ++ [.start (.change uri text version), .pass time]) = checked moves) := by
  intro checked
  have watch : ∀ more, Portrait.Resolving world.toSurroundings more →
      checked more = Watch.run uri world.rest {} more :=
    checkedAtRest_eq_run world creatable general resolves uri
  have first : Watch.Ahead {} := ⟨nofun, nofun⟩
  obtain ⟨ahead, follows⟩ : (Watch.after uri world.rest {} moves).Ahead ∧
      (Watch.after uri world.rest {} moves).Follows uri ([] ++ moves) :=
    Watch.after_kept first ⟨rfl, rfl⟩ moves
  refine ⟨?_, ?_, ?_⟩
  · rw [watch moves resolving]
    exact Watch.run_eq first ⟨rfl, rfl⟩ moves
  · intro present text version edits rapid
    have further : Portrait.Resolving world.toSurroundings (moves ++
        .start (.change uri text version) :: (burst uri edits ++ [.pass world.rest])) := by
      intro settings member
      rcases List.mem_append.mp member with before | after
      · exact resolving settings before
      · have inside := unconfigured_burst uri edits (some settings)
        simp [inside] at after
    have shown : (Watch.after uri world.rest {} moves).text.isSome := follows.text ▸ present
    rw [watch _ further, watch moves resolving, Watch.run_append,
      Watch.run_burst shown text version edits rapid, follows.now]
    rfl
  · intro absent text version time
    have further : Portrait.Resolving world.toSurroundings (moves ++
        [.start (.change uri text version), .pass time]) := by
      intro settings member
      rcases List.mem_append.mp member with before | after
      · exact resolving settings before
      · simp at after
    rw [watch _ further, watch moves resolving, Watch.run_append,
      Watch.run_absent (follows.text.trans absent), List.append_nil]

/-- A document is changed in several ways while the configuration changes. -/
def edited (uri : Uri) : List Move :=
  [.start (.open uri "a" 1), .start (.change uri "b" 2), .pass 4, .start (.change uri "c" 3),
    .start (.configure (some ⟨50, some "/b"⟩)), .pass 12, .start (.change uri "d" 4),
    .start (.close uri), .start (.change uri "e" 5), .pass 20, .start (.open uri "f" 1)]

theorem rested_documents_checked_edited :
    let world : World Result := { rest := 10 }
    let uri : Uri := ⟨"file:///a"⟩
    let checked := (start world ⟨100, some "/a"⟩).checkedAtRest uri
    world.broken = false ∧ (world.locate ⟨100, some "/a"⟩).isSome ∧
      Portrait.Resolving world.toSurroundings (edited uri) ∧ checked (edited uri) = [(14, "c")] ∧
      checked (edited uri ++ .start (.change uri "g" 2) ::
        (burst uri [(9, "h", 3), (9, "i", 4)] ++ [.pass 10])) = [(14, "c"), (64, "i")] := by
  intro world uri checked
  have resolving : Portrait.Resolving world.toSurroundings (edited uri) := by
    intro settings member
    simp only [edited, List.mem_cons, reduceCtorEq, Move.start.injEq, Request.configure.injEq,
      Option.some.injEq, List.not_mem_nil, or_false, false_or] at member
    subst member
    rfl
  obtain ⟨exactly, bursts, -⟩ := rested_documents_checked world rfl ⟨100, some "/a"⟩ rfl uri
    (edited uri) resolving
  have checks : checked (edited uri) = [(14, "c")] := exactly.trans (by decide +kernel)
  refine ⟨rfl, rfl, resolving, checks, ?_⟩
  refine (bursts (by decide +kernel) "g" 2 [(9, "h", 3), (9, "i", 4)] (by decide)).trans ?_
  exact congrArg (· ++ [(64, "i")]) checks

end Trial

end LanguageServer.Scenario
