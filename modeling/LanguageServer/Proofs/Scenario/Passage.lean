import LanguageServer.Proofs.Scenario.Reception

/-! The portrait of a document in the course of time. A timed run of a session gives a run of each
portrait on its own. -/

namespace LanguageServer.Scenario

open Session

/-! ### Runs of a portrait -/

namespace Portrait

/-- All that is planned for the document is due after a time. -/
def Settled (now : Nat) (portrait : Portrait) : Prop :=
  ∀ entry ∈ portrait.entries, now < entry.1

/-- All that is due by a time happens in turn, and something is seen of it. -/
inductive Elapses (surroundings : Surroundings) (last : Nat) :
    Portrait → List (Nat × Sight) → Portrait → Prop
  | done {portrait : Portrait} (settled : portrait.Settled last) :
      Elapses surroundings last portrait [] portrait
  | tick {portrait next final : Portrait} {due : Nat} {token : Token} {rest : List (Nat × Token)}
      {sights : List Sight} {log : List (Nat × Sight)} (file : Path)
      (entries : portrait.entries = (due, token) :: rest) (reached : due ≤ last)
      (takes : { portrait with entries := rest }.take surroundings (surroundings.answer due file) due
        token = (next, sights))
      (further : Elapses surroundings last next log final) :
      Elapses surroundings last portrait (sights.map (due, ·) ++ log) final

/-- A timed run of a portrait that begins at a time, and what is seen of it. -/
inductive Runs (surroundings : Surroundings) (uri : Uri) :
    Nat → Portrait → List Move → List (Nat × Sight) → Prop
  | nil {now : Nat} {portrait : Portrait} : Runs surroundings uri now portrait [] []
  | start {now : Nat} {portrait next settled : Portrait} {request : Request} {moves : List Move}
      {sights : List Sight} {log rest : List (Nat × Sight)} (file : Path)
      (receives : portrait.receive surroundings (surroundings.answer now file) now uri request =
        (next, sights))
      (elapses : next.Elapses surroundings now log settled)
      (further : Runs surroundings uri now settled moves rest) :
      Runs surroundings uri now portrait (.start request :: moves)
        (sights.map (now, ·) ++ log ++ rest)
  | pass {now time : Nat} {portrait settled : Portrait} {moves : List Move}
      {log rest : List (Nat × Sight)}
      (elapses : portrait.Elapses surroundings (now + time) log settled)
      (further : Runs surroundings uri (now + time) settled moves rest) :
      Runs surroundings uri now portrait (.pass time :: moves) (log ++ rest)

variable {surroundings : Surroundings} {last : Nat} {portrait final : Portrait}
  {log : List (Nat × Sight)}

theorem Elapses.settled (elapses : portrait.Elapses surroundings last log final) :
    final.Settled last := by
  induction elapses with
  | done settled => exact settled
  | tick _ _ _ _ _ ih => exact ih

/-- Nothing happens to a portrait of which nothing is due. -/
theorem Elapses.of_settled (elapses : portrait.Elapses surroundings last log final)
    (settled : portrait.Settled last) : log = [] ∧ final = portrait := by
  cases elapses with
  | done _ => exact ⟨rfl, rfl⟩
  | tick file entries reached takes further =>
    have late := settled _ (entries ▸ List.mem_cons_self ..)
    exact absurd reached (Nat.not_le_of_lt late)

end Portrait

/-! ### The runs of a trial -/

namespace Trial

/-- A trial goes on until a time, with all that is due by then. -/
structure Reaches (uri : Uri) (last : Nat) (trial : Trial) (log : List (Nat × Sight))
    (result : Trial) : Prop where
  sound : result.Sound
  surroundings : result.state.world.toSurroundings = trial.state.world.toSurroundings
  later : ∀ entry ∈ result.agenda.entries, last < entry.1
  forward : trial.now ≤ result.now
  within : result.now ≤ last
  elapses : (trial.portrait uri).Elapses trial.state.world.toSurroundings last log
    (result.portrait uri)

variable {trial : Trial} {uri : Uri} {last : Nat}

theorem settled_portrait (later : ∀ entry ∈ trial.agenda.entries, last < entry.1) :
    (trial.portrait uri).Settled last := by
  intro entry member
  obtain ⟨input, inside⟩ := Agenda.due_of_mem_selected _ member
  exact later _ inside

theorem feed_now (trial : Trial) (input : Input) :
    (Simulation.feed machine trial input).now = trial.now := by
  rw [Simulation.now, feed_agenda, Agenda.now_planAll]
  rfl

theorem reaches_refl (sound : trial.Sound) (later : ∀ entry ∈ trial.agenda.entries, last < entry.1)
    (ahead : trial.now ≤ last) : trial.Reaches uri last [] trial :=
  ⟨sound, rfl, later, Nat.le_refl _, ahead, .done (settled_portrait later)⟩

/-- An input that is taken is a step of the portrait, or means nothing for it. -/
theorem reaches_tick {due : Nat} {input : Input} {rest : List (Nat × Input)} {result : Trial}
    {log : List (Nat × Sight)} (sound : trial.Sound) (creatable : trial.state.world.broken = false)
    (entries : trial.agenda.entries = (due, input) :: rest) (reached : due ≤ last)
    (further : Reaches uri last (Simulation.feed machine ⟨trial.state, ⟨due, rest⟩⟩ input) log
      result) :
    trial.Reaches uri last (((trial.state.moment input).sights uri).map (due, ·) ++ log) result := by
  obtain ⟨reduced, expected, apart⟩ := sound.rest entries
  have same := feed_surroundings ⟨trial.state, ⟨due, rest⟩⟩ input
  have forward : trial.now ≤ result.now := by
    have now : (Simulation.feed machine ⟨trial.state, ⟨due, rest⟩⟩ input).now = due := feed_now ..
    have first := sound.ordered.first entries
    exact Nat.le_trans first (Nat.le_trans (Nat.le_of_eq now.symm) further.forward)
  refine ⟨further.sound, further.surroundings.trans same, further.later, forward, further.within, ?_⟩
  have elapses := further.elapses
  rw [same] at elapses
  have becomes : Becomes uri ⟨trial.state, ⟨due, rest⟩⟩ input _ :=
    portrait_tick reduced apart creatable expected
  obtain ⟨file, becomes⟩ := becomes
  have selected := Agenda.selected_cons (token? trial.state.session uri) due input rest
  rw [← entries] at selected
  cases meaning : token? trial.state.session uri input with
  | none =>
    rw [meaning] at becomes selected
    obtain ⟨unchanged, unseen⟩ := Prod.mk.inj becomes
    have whole : trial.portrait uri = portrait uri ⟨trial.state, ⟨due, rest⟩⟩ := by
      rw [portrait, selected]
      rfl
    rw [unchanged, ← whole] at elapses
    rw [show (trial.state.moment input).sights uri = [] from unseen]
    exact elapses
  | some token =>
    rw [meaning] at becomes selected
    exact .tick file selected reached becomes.symm elapses

/-- A run of a sound trial until a time. -/
theorem reaches_run (fuel : Nat) {trial : Trial} (sound : trial.Sound)
    (creatable : trial.state.world.broken = false) (ahead : trial.now ≤ last)
    (enough : burden trial ≤ fuel) :
    trial.Reaches uri last (seen uri (moments (trial.taken machine { limit := some last } fuel)))
      (trial.runFor machine { limit := some last } fuel) := by
  induction fuel generalizing trial with
  | zero =>
    rcases sound.ordered.later_or_due last with later | ⟨due, input, rest, entries, -⟩
    · exact reaches_refl sound later ahead
    · -- nothing weighs less than nothing
      have lighter := burden_tick sound entries
      omega
  | succ fuel ih =>
    rcases sound.ordered.later_or_due last with later | ⟨due, input, rest, entries, reached⟩
    · obtain ⟨none, same⟩ := @Simulation.taken_of_later _ _ machine _ _ later (fuel + 1)
      rw [none, same]
      exact reaches_refl sound later ahead
    · obtain ⟨reduced, expected, apart⟩ := sound.rest entries
      obtain ⟨takes, goes⟩ := @Simulation.taken_of_due _ _ machine _ _ _ _ _ entries reached fuel
      rw [Nat.max_eq_right (sound.ordered.first entries)] at takes goes
      rw [takes, goes]
      have lighter := burden_tick sound entries
      have same := feed_surroundings ⟨trial.state, ⟨due, rest⟩⟩ input
      have now := feed_now ⟨trial.state, ⟨due, rest⟩⟩ input
      refine reaches_tick sound creatable entries reached (ih ?_ ?_ ?_ ?_)
      · exact reduced.feed (.inr expected) apart
      · exact (congrArg Surroundings.broken same).trans creatable
      · exact Nat.le_trans (Nat.le_of_eq now) reached
      · omega

theorem reaches_settle (sound : trial.Sound) (creatable : trial.state.world.broken = false) :
    trial.Reaches uri trial.now (seen uri (moments (trial.takenUntil trial.now))) (trial.settle machine) :=
  reaches_run _ sound creatable (Nat.le_refl _) (burden_le_load trial)

/-! ### Moves -/

theorem Sound.mapWorld (sound : trial.Sound) {change : World Result → World Result}
    (same : (change trial.state.world).toSurroundings = trial.state.world.toSurroundings) :
    Sound (trial.mapWorld change) := by
  obtain ⟨ordered, unasking, tidy, revised, synced, keys, expected, distinct⟩ := sound
  refine ⟨ordered, unasking, tidy, revised, ?_, keys, expected, distinct⟩
  have locates := congrArg Surroundings.locate same
  exact locates ▸ synced

theorem Sound.wait (sound : trial.Sound)
    (later : ∀ entry ∈ trial.agenda.entries, last < entry.1) :
    Sound { trial with agenda := trial.agenda.wait last } := by
  obtain ⟨ordered, unasking, tidy, revised, synced, keys, expected, distinct⟩ := sound
  refine ⟨⟨ordered.sorted, ?_⟩, unasking, tidy, revised, synced, keys, expected, distinct⟩
  intro entry member
  exact Nat.max_le.mpr ⟨ordered.ahead entry member, Nat.le_of_lt (later entry member)⟩

theorem settle_of_later (later : ∀ entry ∈ trial.agenda.entries, trial.now < entry.1) :
    trial.takenUntil trial.now = [] ∧ trial.settle machine = trial :=
  Simulation.taken_of_later later _

theorem start_receives (sound : trial.Sound) (creatable : trial.state.world.broken = false)
    (number : Nat) (request : Request) :
    let acted := (trial.act number (.background request)).1
    Sound acted ∧ acted.state.world.toSurroundings = trial.state.world.toSurroundings ∧
      acted.now = trial.now ∧
      ∃ file sights, (trial.portrait uri).receive trial.state.world.toSurroundings
          (trial.state.world.answer trial.now file) trial.now uri request =
            (acted.portrait uri, sights) ∧
        seen uri (moments (trial.inputs (.start request))) = sights.map (trial.now, ·) := by
  intro acted
  have ready := @Sound.mapWorld trial sound (fun world => { world with
    background := world.background.put trial.state.session.nextOperation number }) rfl
  have receives : Receives uri _ request := receives ready creatable request
  obtain ⟨file, becomes⟩ := receives
  refine ⟨ready.feed (.inl ⟨request, rfl⟩) (apart_start _ request), feed_surroundings .., feed_now ..,
    file, _, becomes.symm, ?_⟩
  exact List.append_nil _

theorem pass_reaches (sound : trial.Sound) (creatable : trial.state.world.broken = false)
    (number time : Nat) :
    let acted := (trial.act number (.advance time)).1
    acted.now = trial.now + time ∧
      trial.Reaches uri (trial.now + time) (seen uri (moments (trial.inputs (.pass time)))) acted := by
  intro acted
  have reaches : trial.Reaches uri (trial.now + time) (seen uri (moments (trial.inputs (.pass time))))
      (trial.run machine { limit := some (trial.now + time) }) :=
    reaches_run _ sound creatable (Nat.le_add_right ..) (burden_le_load trial)
  have now : acted.now = trial.now + time := Nat.max_eq_right reaches.within
  refine ⟨now, ?_⟩
  exact ⟨reaches.sound.wait reaches.later, reaches.surroundings, reaches.later,
    now ▸ Nat.le_add_right .., Nat.le_of_eq now, reaches.elapses⟩

theorem seen_journal (uri : Uri) (trial : Trial) (number : Nat) (move : Move) (moves : List Move) :
    let cleared := trial.mapWorld fun world => { world with events := [] }
    let acted : Trial := (cleared.act number move.step).1
    let settled : Trial := acted.settle machine
    seen uri (trial.journal number (move :: moves)) =
      seen uri (moments (cleared.inputs move)) ++ seen uri (moments (acted.takenUntil acted.now)) ++
        seen uri (settled.journal (number + 1) moves) := by
  intro cleared acted settled
  rw [journal, moments, List.map_append, seen, List.flatMap_append, List.flatMap_append]
  rfl

/-- A timed run of a session is a timed run of each portrait. -/
theorem runs_journal (moves : List Move) (number : Nat) {trial : Trial} (sound : trial.Sound)
    (creatable : trial.state.world.broken = false)
    (later : ∀ entry ∈ trial.agenda.entries, trial.now < entry.1) :
    (trial.portrait uri).Runs trial.state.world.toSurroundings uri trial.now moves
      (seen uri (trial.journal number moves)) := by
  induction moves generalizing trial number with
  | nil => exact .nil
  | cons move moves ih =>
    have cleared := @Sound.mapWorld trial sound (fun world => { world with events := [] }) rfl
    cases move with
    | start request =>
      obtain ⟨sound, same, now, file, sights, receives, first⟩ :=
        @start_receives _ uri cleared creatable number request
      have settles := @reaches_settle _ uri sound (same ▸ creatable)
      have still := Nat.le_antisymm settles.within settles.forward
      have further := ih (number + 1) settles.sound
        (settles.surroundings ▸ same ▸ creatable) (still ▸ settles.later)
      have elapses := settles.elapses
      rw [settles.surroundings, same, still, now] at further
      rw [same, now] at elapses
      rw [seen_journal]
      simp only [Move.step]
      rw [first, now]
      exact .start file receives elapses further
    | pass time =>
      obtain ⟨now, reaches⟩ := @pass_reaches _ uri cleared creatable number time
      have later := now ▸ reaches.later
      obtain ⟨none, same⟩ := settle_of_later later
      have further := ih (number + 1) reaches.sound (reaches.surroundings ▸ creatable) later
      rw [reaches.surroundings, now] at further
      rw [seen_journal]
      simp only [Move.step]
      rw [none, same]
      refine (List.append_assoc ..).symm ▸ ?_
      exact .pass reaches.elapses further

theorem sound_start (world : World Result) (general : Settings) : (start world general).Sound where
  ordered := ⟨.nil, nofun⟩
  unasking := ⟨rfl, nofun, nofun⟩
  tidy := tidy_run general []
  revised := revised_fresh general
  synced := nofun
  keys := .nil
  expected := nofun
  distinct := .nil

/-- What is seen of a document in a timed run, is seen in a run of its portrait. -/
theorem runs_sightings (world : World Result) (creatable : world.broken = false) (general : Settings)
    (uri : Uri) (moves : List Move) :
    Portrait.Runs world.toSurroundings uri 0 ⟨none, general, []⟩ moves
      ((start world general).sightings uri moves) :=
  runs_journal moves 0 (sound_start world general) creatable nofun

end Trial

end LanguageServer.Scenario
