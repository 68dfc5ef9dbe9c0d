import LanguageServer.Table

/-! Signals that processes send to each other. -/

namespace LanguageServer.Shell

/-- What a signal does to a process that has made no provision for it. -/
inductive Consequence
  | death
  | nothing
  /-- The process stops and does not go on by itself. -/
  | stop
  deriving DecidableEq, Repr

def signalNames : List String :=
  ["HUP", "INT", "QUIT", "ILL", "TRAP", "ABRT", "BUS", "FPE", "KILL", "USR1", "SEGV", "USR2", "PIPE",
   "ALRM", "TERM", "STKFLT", "CHLD", "CONT", "STOP", "TSTP", "TTIN", "TTOU", "URG", "XCPU", "XFSZ",
   "VTALRM", "PROF", "WINCH", "IO", "PWR", "SYS"]

/-- The name of the signal with a number; that with number zero means the end of a script. -/
def signalName? (number : Nat) : Option String :=
  if number = 0 then some "EXIT" else signalNames[number - 1]?

/-- The number of the signal with a name, or with that number as its name. -/
def signalNumber? (text : String) : Option Nat :=
  if text == "EXIT" then some 0
  else
    match signalNames.findIdx? (· == text) with
    | some index => some (index + 1)
    | none =>
      match text.toNat? with
      | some number => if number ≤ 64 then some number else none
      | none => none

/-- What a signal does. -/
def consequence (number : Nat) : Consequence :=
  if number ∈ [0, 17, 18, 23, 28] then .nothing
  else if number ∈ [19, 20, 21, 22] then .stop
  else .death

/-- What a shell says about a program that died of a signal. -/
def obituary? : Nat → Option String
  | 1 => some "Hangup"
  | 3 => some "Quit"
  | 4 => some "Illegal instruction"
  | 5 => some "Trace/breakpoint trap"
  | 6 => some "Aborted"
  | 7 => some "Bus error"
  | 8 => some "Floating point exception"
  | 9 => some "Killed"
  | 10 => some "User defined signal 1"
  | 11 => some "Segmentation fault"
  | 12 => some "User defined signal 2"
  | 14 => some "Alarm clock"
  | 15 => some "Terminated"
  | _ => none

end LanguageServer.Shell
