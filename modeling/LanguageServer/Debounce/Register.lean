import LanguageServer.Table

/-! The register of tasks that wait for their key to come to rest. Each of them has a timer that runs
elsewhere and comes back with the task's ticket. Who drops a task stops its timer by the ticket, as
`Timeline.act` does; a timer that nobody stops finds its ticket gone and takes nothing out. -/

namespace LanguageServer.Debounce

/-- The pending task of each key, known by its ticket. No ticket is given out twice. -/
structure Register (κ : Type u) where
  nextTicket : Nat := 0
  pending : Table κ Nat := ∅
  deriving Repr

namespace Register

variable {κ : Type u} [DecidableEq κ]

/-- Registers a task for a key in place of the one that was pending, and gives its ticket. -/
def schedule (register : Register κ) (key : κ) : Register κ × Nat :=
  (⟨register.nextTicket + 1, register.pending.put key register.nextTicket⟩, register.nextTicket)

/-- Drops the pending task of a key, and tells whether there was one. -/
def cancel (register : Register κ) (key : κ) : Register κ × Bool :=
  ({ register with pending := register.pending.erase key }, register.pending.contains key)

omit [DecidableEq κ] in
def tickets (register : Register κ) : List Nat :=
  register.pending.entries.map (·.2)

omit [DecidableEq κ] in
def cancelAll (register : Register κ) : Register κ :=
  { register with pending := ∅ }

/-- Takes a task out to run it, if it is still the pending one of its key. -/
def claim? (register : Register κ) (key : κ) (ticket : Nat) : Option (Register κ) :=
  if register.pending.get? key = some ticket then
    some { register with pending := register.pending.erase key }
  else
    none

end Register

end LanguageServer.Debounce
