import LanguageServer.Proofs.Scenario.Chronicle
import LanguageServer.Proofs.Scenario.Passage

/-! Documents do not disturb each other. If a compiler does not look at the names of the files that it
checks, what is seen of a document follows from the moves that concern it. -/

namespace LanguageServer.Scenario

open Session

/-- Checks do not depend on the name of the file that holds the text. -/
def Behaviour.Blind (compiler : Behaviour) : Prop :=
  ∀ now executable file other contents,
    compiler.call now executable (Compiler.checkArguments file) contents =
      compiler.call now executable (Compiler.checkArguments other) contents

/-- Whether a move has to do with a document: requests about other documents have not, and no
question has. -/
def Move.concerns (uri : Uri) : Move → Bool
  | .start (.open other _ _) => other = uri
  | .start (.change other _ _) => other = uri
  | .start (.close other) => other = uri
  | .start (.validate other) => other = uri
  | .start (.ask _ _) => false
  | .start .shutdown => true
  | .start (.configure _) => true
  | .pass _ => true

namespace Portrait

variable {surroundings : Surroundings} {uri : Uri} {now last : Nat} {portrait : Portrait}
  {moves : List Move} {log otherLog : List (Nat × Sight)}

/-! ### Runs are determined -/

section

variable (blind : surroundings.compiler.Blind)

include blind

theorem answer_eq (now : Nat) (file other : Path) :
    surroundings.answer now file = surroundings.answer now other := by
  funext executable text
  exact blind now executable file other text

theorem Elapses.unique {final other : Portrait}
    (elapses : portrait.Elapses surroundings last log final)
    (again : portrait.Elapses surroundings last otherLog other) :
    log = otherLog ∧ final = other := by
  induction elapses generalizing otherLog with
  | done settled =>
    obtain ⟨rfl, rfl⟩ := again.of_settled settled
    exact ⟨rfl, rfl⟩
  | tick file entries reached takes further ih =>
    cases again with
    | done settled =>
      have late := settled _ (entries ▸ List.mem_cons_self ..)
      exact absurd reached (Nat.not_le_of_lt late)
    | tick otherFile others _ takesOther furtherOther =>
      obtain ⟨first, rfl⟩ := List.cons.inj (entries.symm.trans others)
      obtain ⟨rfl, rfl⟩ := Prod.mk.inj first
      rw [answer_eq blind _ otherFile file] at takesOther
      obtain ⟨rfl, rfl⟩ := Prod.mk.inj (takes.symm.trans takesOther)
      obtain ⟨rfl, rfl⟩ := ih furtherOther
      exact ⟨rfl, rfl⟩

theorem Runs.unique (runs : portrait.Runs surroundings uri now moves log)
    (again : portrait.Runs surroundings uri now moves otherLog) : log = otherLog := by
  induction runs generalizing otherLog with
  | nil =>
    cases again
    rfl
  | start file receives elapses further ih =>
    cases again with
    | start otherFile receivesOther elapsesOther furtherOther =>
      rw [answer_eq blind _ otherFile file] at receivesOther
      obtain ⟨rfl, rfl⟩ := Prod.mk.inj (receives.symm.trans receivesOther)
      obtain ⟨rfl, rfl⟩ := elapses.unique blind elapsesOther
      rw [ih furtherOther]
  | pass elapses further ih =>
    cases again with
    | pass elapsesOther furtherOther =>
      obtain ⟨rfl, rfl⟩ := elapses.unique blind elapsesOther
      rw [ih furtherOther]

end

/-! ### Moves that do not matter -/

theorem receive_of_not_concerns {request : Request}
    (apart : (Move.start request).concerns uri = false) (answer : Checker) :
    portrait.receive surroundings answer now uri request = (portrait, []) := by
  cases request with
  | ask other question => rfl
  | shutdown => cases apart
  | configure settings => cases apart
  | change other text version =>
    have different : other ≠ uri := of_decide_eq_false apart
    simp only [receive, different, if_false]
    split <;> rfl
  | _ => exact if_neg (of_decide_eq_false apart)

/-- Moves that do not concern a document can be left out. -/
theorem Runs.restrict (runs : portrait.Runs surroundings uri now moves log)
    (settled : portrait.Settled now) :
    portrait.Runs surroundings uri now (moves.filter (Move.concerns uri)) log := by
  induction runs with
  | nil => exact .nil
  | @start _ _ _ _ request _ _ _ _ file receives elapses further ih =>
    cases concerns : (Move.start request).concerns uri with
    | true =>
      rw [List.filter_cons_of_pos concerns]
      exact .start file receives elapses (ih elapses.settled)
    | false =>
      rw [receive_of_not_concerns concerns] at receives
      obtain ⟨rfl, rfl⟩ := Prod.mk.inj receives
      obtain ⟨rfl, rfl⟩ := elapses.of_settled settled
      rw [List.filter_cons_of_neg (Bool.eq_false_iff.mp concerns)]
      exact ih settled
  | pass elapses further ih =>
    rw [List.filter_cons_of_pos rfl]
    exact .pass elapses (ih elapses.settled)

end Portrait

namespace Trial

/-- What is seen of a document in a timed run, the calls that check it and what is shown of it, does
not change if all that is asked about other documents is left out, and all questions too. The same is
then reported to be shown of it. -/
theorem documents_isolated (world : World Result) (creatable : world.broken = false)
    (blind : world.compiler.Blind) (general : Settings) (uri : Uri) (moves : List Move) :
    let trial := start world general
    let fewer := moves.filter (Move.concerns uri)
    trial.sightings uri fewer = trial.sightings uri moves ∧
      ((trial.events 0 fewer).filterMap (shownBy? uri)).Perm
        ((trial.events 0 moves).filterMap (shownBy? uri)) := by
  intro trial fewer
  have same : trial.sightings uri fewer = trial.sightings uri moves :=
    (runs_sightings world creatable general uri fewer).unique blind
      ((runs_sightings world creatable general uri moves).restrict nofun)
  refine ⟨same, ?_⟩
  have shown : (trial.sightings uri fewer).filterMap shownIn? =
      (trial.sightings uri moves).filterMap shownIn? := congrArg (List.filterMap shownIn?) same
  exact (shown_events uri trial 0 fewer).trans
    ((List.Perm.of_eq shown).trans (shown_events uri trial 0 moves).symm)

/-- Two documents are edited at the same time, and the configuration changes under both. -/
def crossed (one other : Uri) : List Move :=
  [.start (.open one "let" 1), .start (.open other "var" 1), .pass 2, .start (.ask one (.symbol 1 0)),
    .start (.change other "vars" 2), .start (.change one "lets" 2),
    .start (.configure (some ⟨100, some "/b"⟩)), .pass 20, .start (.close other), .pass 10]

theorem documents_isolated_crossed :
    let compiler : Behaviour := ⟨fun now _ _ contents =>
      (now + contents.length, .ok ⟨"", ":1:2: error: bad", some 0⟩)⟩
    let world : World Result := { compiler := compiler, rest := 10 }
    let trial := start world ⟨100, some "/a"⟩
    let uri : Uri := ⟨"file:///a"⟩
    let moves := crossed uri ⟨"file:///b"⟩
    let fewer := moves.filter (Move.concerns uri)
    let bad : Diagnostic := ⟨.error, ⟨0, 2, 0, 3⟩, "bad"⟩
    world.broken = false ∧ compiler.Blind ∧ fewer.length < moves.length ∧
      trial.sightings uri moves =
        [(0, .called false "/a" "let"), (2, .called false "/b" "lets"), (8, .shown [bad] 2),
          (12, .called true "/b" "lets"), (28, .shown [bad] 2)] ∧
      trial.sightings uri fewer = trial.sightings uri moves ∧
      ((trial.events 0 fewer).filterMap (shownBy? uri)).Perm
        ((trial.events 0 moves).filterMap (shownBy? uri)) := by
  intro compiler world trial uri moves fewer bad
  have blind : compiler.Blind := fun _ _ _ _ _ => rfl
  exact ⟨rfl, blind, by decide, by decide +kernel,
    documents_isolated world rfl blind ⟨100, some "/a"⟩ uri moves⟩

end Trial

end LanguageServer.Scenario
