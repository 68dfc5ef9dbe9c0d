/-! A clock and what is to happen on it. -/

namespace LanguageServer

/-- The present time and the things that are to come, each with the time at which it is due. Of two
things that are due together, the one that was planned first comes first. -/
structure Agenda (ι : Type u) where
  /-- The present time in milliseconds. -/
  now : Nat := 0
  entries : List (Nat × ι) := []
  deriving Repr

namespace Agenda

variable {ι : Type u}

/-- Puts an entry behind all those that are due at the same time or before. -/
def insert (due : Nat) (item : ι) : List (Nat × ι) → List (Nat × ι)
  | [] => [(due, item)]
  | (other, first) :: rest =>
    if other ≤ due then (other, first) :: insert due item rest else (due, item) :: (other, first) :: rest

inductive When
  /-- Before everything else. -/
  | atOnce
  /-- After a while, behind everything that is due by then. -/
  | after (delay : Nat)
  deriving DecidableEq, Repr

def plan (agenda : Agenda ι) : When × ι → Agenda ι
  | (.atOnce, item) => { agenda with entries := (agenda.now, item) :: agenda.entries }
  | (.after delay, item) => { agenda with entries := insert (agenda.now + delay) item agenda.entries }

def planAll (agenda : Agenda ι) (items : List (When × ι)) : Agenda ι :=
  items.foldl plan agenda

/-- Takes the first entry that satisfies a test out of a list. -/
def extract (test : α → Bool) : List α → Option (α × List α)
  | [] => none
  | head :: rest =>
    if test head then some (head, rest)
    else (extract test rest).map fun (found, others) => (found, head :: others)

/-- What comes next, if it is due at a time that is allowed: of what is due first, something
preferred, else whatever was planned first. -/
def next? (prefer : ι → Bool) (allowed : Nat → Bool) (agenda : Agenda ι) : Option (ι × Agenda ι) :=
  match agenda.entries with
  | [] => none
  | (due, first) :: rest =>
    if allowed due then
      let now := max agenda.now due
      match extract (fun entry => entry.1 == due && prefer entry.2) agenda.entries with
      | some ((_, found), others) => some (found, ⟨now, others⟩)
      | none => some (first, ⟨now, rest⟩)
    else
      none

def strike (agenda : Agenda ι) (test : ι → Bool) : Agenda ι :=
  { agenda with entries := agenda.entries.filter fun entry => !test entry.2 }

def wait (agenda : Agenda ι) (time : Nat) : Agenda ι :=
  { agenda with now := max agenda.now time }

end Agenda

end LanguageServer
