import LanguageServer.Session.Step

/-! Runs of a session. A run is any sequence of impulses, so that operations can be interleaved in
every way at the points where they wait. -/

namespace LanguageServer.Session

/-- What reaches a session from outside. The surroundings may differ from one input to the next. -/
inductive Impulse
  | input (host : Host) (input : Input)
  /-- From now on the editor can, or cannot, be asked for settings. -/
  | support (pulls : Bool)
  /-- The general settings are replaced. -/
  | general (settings : Settings)

/-- The session after an impulse, and what it brings about. -/
def react (session : Session) : Impulse → Session × List Effect
  | .input host input => session.step host input
  | .support pulls => ({ session with pulls := pulls }, [])
  | .general settings => ({ session with general := settings }, [])

def fresh (general : Settings) : Session :=
  { general := general }

/-- A moment of a run: the session that an impulse finds. -/
structure Moment where
  session : Session
  impulse : Impulse

namespace Moment

def after (moment : Moment) : Session :=
  (moment.session.react moment.impulse).1

def effects (moment : Moment) : List Effect :=
  (moment.session.react moment.impulse).2

def Closes (moment : Moment) (uri : Uri) : Prop :=
  ∃ host, moment.impulse = .input host (.start (.close uri))

end Moment

def after (session : Session) (impulses : List Impulse) : Session :=
  impulses.foldl (fun session impulse => (session.react impulse).1) session

def moments (session : Session) : List Impulse → List Moment
  | [] => []
  | impulse :: rest => ⟨session, impulse⟩ :: (session.react impulse).1.moments rest

@[simp]
theorem moments_nil (session : Session) : session.moments [] = [] := rfl

@[simp]
theorem moments_cons (session : Session) (impulse : Impulse) (rest : List Impulse) :
    session.moments (impulse :: rest) =
      ⟨session, impulse⟩ :: (session.react impulse).1.moments rest := rfl

@[simp]
theorem after_nil (session : Session) : session.after [] = session := rfl

@[simp]
theorem after_cons (session : Session) (impulse : Impulse) (rest : List Impulse) :
    session.after (impulse :: rest) = (session.react impulse).1.after rest := rfl

theorem after_append (session : Session) (before rest : List Impulse) :
    session.after (before ++ rest) = (session.after before).after rest :=
  List.foldl_append

/-- What holds at the beginning and is kept from each moment to the next holds after every run. The
moments of the past go along with the session. -/
theorem run_induction {motive : List Moment → Session → Prop}
    (next : ∀ past session impulse, motive past session →
      motive (past ++ [⟨session, impulse⟩]) (session.react impulse).1)
    (past : List Moment) (session : Session) (start : motive past session)
    (impulses : List Impulse) :
    motive (past ++ session.moments impulses) (session.after impulses) := by
  induction impulses generalizing past session with
  | nil => simpa using start
  | cons impulse rest ih =>
    have further := ih _ _ (next past session impulse start)
    simpa using further

/-- What one impulse keeps, a run keeps. -/
theorem after_induction {motive : Session → Prop}
    (next : ∀ session impulse, motive session → motive (session.react impulse).1)
    (session : Session) (start : motive session) (impulses : List Impulse) :
    motive (session.after impulses) :=
  run_induction (motive := fun _ session => motive session)
    (fun _ session impulse => next session impulse) [] session start impulses

/-- A run can be cut between any two of its moments. -/
theorem moments_split (session : Session) (impulses : List Impulse) (earlier later : List Moment)
    (run : session.moments impulses = earlier ++ later) :
    ∃ before rest, impulses = before ++ rest ∧ session.moments before = earlier ∧
      (session.after before).moments rest = later := by
  induction earlier generalizing session impulses with
  | nil => exact ⟨[], impulses, rfl, rfl, run⟩
  | cons head earlier ih =>
    cases impulses with
    | nil => simp at run
    | cons impulse impulses =>
      obtain ⟨rfl, tail⟩ := List.cons.inj run
      obtain ⟨before, rest, rfl, same, remaining⟩ := ih _ _ tail
      exact ⟨impulse :: before, rest, rfl, by simp [same], remaining⟩

/-- The impulses before and after a moment of a run, and what they make of the session. -/
theorem moments_cut (session : Session) (impulses : List Impulse) (earlier later : List Moment)
    (moment : Moment) (run : session.moments impulses = earlier ++ moment :: later) :
    ∃ before rest, session.moments before = earlier ∧ moment.session = session.after before ∧
      moment.after.moments rest = later ∧ session.after impulses = moment.after.after rest := by
  obtain ⟨before, rest, rfl, same, remaining⟩ := moments_split session impulses _ _ run
  cases rest with
  | nil => simp at remaining
  | cons impulse rest =>
    obtain ⟨rfl, tail⟩ := List.cons.inj remaining
    exact ⟨before, rest, same, rfl, tail, after_append ..⟩

/-- A moment finds the session that the moments before it left. -/
theorem moments_at (session : Session) (impulses : List Impulse) (earlier later : List Moment)
    (moment : Moment) (run : session.moments impulses = earlier ++ moment :: later) :
    ∃ before rest, session.moments before = earlier ∧ moment.session = session.after before ∧
      moment.after.moments rest = later := by
  obtain ⟨before, rest, same, reached, tail, -⟩ :=
    moments_cut session impulses earlier later moment run
  exact ⟨before, rest, same, reached, tail⟩

/-! ### Places in a run -/

theorem moments_append (session : Session) (before rest : List Impulse) :
    session.moments (before ++ rest) =
      session.moments before ++ (session.after before).moments rest := by
  induction before generalizing session with
  | nil => rfl
  | cons impulse before ih => simp [ih]

@[simp]
theorem length_moments (session : Session) (impulses : List Impulse) :
    (session.moments impulses).length = impulses.length := by
  induction impulses generalizing session with
  | nil => rfl
  | cons impulse rest ih => simp [ih]

theorem moment_at_place {session : Session} {impulses : List Impulse} {place : Nat} {moment : Moment}
    (here : (session.moments impulses)[place]? = some moment) :
    ∃ before rest, impulses = before ++ moment.impulse :: rest ∧ before.length = place ∧
      moment.session = session.after before := by
  induction impulses generalizing session place with
  | nil => simp at here
  | cons impulse impulses ih =>
    cases place with
    | zero =>
      obtain rfl : ⟨session, impulse⟩ = moment := by simpa using here
      exact ⟨[], impulses, rfl, rfl, rfl⟩
    | succ place =>
      obtain ⟨before, rest, rfl, rfl, reached⟩ := ih (by simpa using here)
      exact ⟨impulse :: before, rest, rfl, rfl, reached⟩

/-- Of two places of a run, the later one finds what the impulses between them made of the session
after the earlier one. -/
theorem moments_between {session : Session} {impulses : List Impulse} {first last : Nat}
    {one other : Moment} (here : (session.moments impulses)[first]? = some one)
    (there : (session.moments impulses)[last]? = some other) (earlier : first < last) :
    ∃ before between rest,
      impulses = before ++ one.impulse :: (between ++ other.impulse :: rest) ∧
        one.session = session.after before ∧ other.session = one.after.after between := by
  obtain ⟨before, later, rfl, rfl, found⟩ := moment_at_place here
  obtain ⟨skipped, rfl⟩ := Nat.exists_eq_add_of_lt earlier
  have remaining : (one.after.moments later)[skipped]? = some other := by
    rw [moments_append, List.getElem?_append_right (by simp; omega)] at there
    have place : before.length + skipped + 1 - (session.moments before).length = skipped + 1 := by
      simp; omega
    rw [place, ← found, moments_cons, List.getElem?_cons_succ] at there
    exact there
  obtain ⟨between, rest, rfl, -, reached⟩ := moment_at_place remaining
  exact ⟨before, between, rest, rfl, found, reached⟩

/-- Each place of a run finds what the one before it left. -/
theorem moments_next {session : Session} {impulses : List Impulse} {place : Nat} {one other : Moment}
    (here : (session.moments impulses)[place]? = some one)
    (there : (session.moments impulses)[place + 1]? = some other) : other.session = one.after := by
  induction impulses generalizing session place with
  | nil => simp at here
  | cons impulse rest ih =>
    cases place with
    | succ place => exact ih (by simpa using here) (by simpa using there)
    | zero =>
      obtain rfl : ⟨session, impulse⟩ = one := by simpa using here
      cases rest with
      | nil => simp at there
      | cons next rest =>
        obtain rfl : ⟨_, next⟩ = other := by simpa using there
        rfl

end LanguageServer.Session
