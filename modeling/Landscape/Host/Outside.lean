import Landscape.Text.Literal
import Landscape.Value.Text

/-!
# What is asked of the outside

Images are drawn by programs and services outside the library. This file holds what the library asks of
them (`Landscape.Request`) and how each of them may answer: a program that is run
(`Landscape.RunOutcome`), a server (`Landscape.FetchOutcome`), a layout engine
(`Landscape.LayoutOutcome`). Each may also fail in a way that the library does not know; such a
failure is handed on as it came (`Landscape.ForeignFault`).
-/

namespace Landscape

/-- Something that the library asks. -/
inductive Request where
  /-- Whether there is a program of this name. -/
  | find (program : String)
  /-- A program is to be run with an input, for so many seconds at most. -/
  | run (command : List String) (input : String) (timeout : Value)
  /-- A text is to be put into an address. -/
  | encode (text : String)
  /-- What is at an address is to be fetched, within so many seconds. -/
  | fetch (address : String) (timeout : Value)
  /-- A layout engine is to draw a graph. -/
  | draw (engine format source : String)
  deriving Repr

/-- A failure of something outside, by its name and message. -/
structure ForeignFault where
  name : String
  message : String
  deriving DecidableEq, Repr, Inhabited

/-- How a program ends that was run. -/
inductive RunOutcome where
  | ended (status : Int) (output errors : List UInt8)
  | timedOut
  /-- It could not be run. -/
  | failed (message : String)
  | raised (f : ForeignFault)
  deriving Repr, Inhabited

/-- How a server answers. -/
inductive FetchOutcome where
  | answered (status : Int) (body : String)
  /-- There was no answer. -/
  | failed (message : String)
  | raised (f : ForeignFault)
  deriving Repr, Inhabited

/-- A command that failed: its status and, if they were kept, its errors. -/
structure CommandFault where
  command : List String
  status : Int
  errors : Option (List UInt8)
  deriving DecidableEq, Repr, Inhabited

/-- How a layout engine answers. -/
inductive LayoutOutcome where
  | drawn (image : List UInt8)
  /-- There is no such engine. -/
  | missing
  | failed (f : CommandFault)
  | raised (f : ForeignFault)
  deriving Repr, Inhabited

/-! ### Failed commands in words -/

/-- The signals that can end a command, by number. -/
def signals : List (Nat × String) :=
  [(1, "SIGHUP"), (2, "SIGINT"), (3, "SIGQUIT"), (4, "SIGILL"), (5, "SIGTRAP"), (6, "SIGABRT"),
    (7, "SIGBUS"), (8, "SIGFPE"), (9, "SIGKILL"), (10, "SIGUSR1"), (11, "SIGSEGV"), (12, "SIGUSR2"),
    (13, "SIGPIPE"), (14, "SIGALRM"), (15, "SIGTERM"), (16, "SIGSTKFLT"), (17, "SIGCHLD"),
    (18, "SIGCONT"), (19, "SIGSTOP"), (20, "SIGTSTP"), (21, "SIGTTIN"), (22, "SIGTTOU"),
    (23, "SIGURG"), (24, "SIGXCPU"), (25, "SIGXFSZ"), (26, "SIGVTALRM"), (27, "SIGPROF"),
    (28, "SIGWINCH"), (29, "SIGIO"), (30, "SIGPWR"), (31, "SIGSYS"), (34, "SIGRTMIN"),
    (64, "SIGRTMAX")]

/-- How a command ended, by its status: a negative one is the number of a signal. -/
def statusText (status : Int) : String :=
  if status < 0 then
    match signals.lookup status.natAbs with
    | some name => s!"died with <Signals.{name}: {status.natAbs}>."
    | none => s!"died with unknown signal {status.natAbs}."
  else s!"returned non-zero exit status {status}."

/-- A failed command in words, with its errors as a literal. -/
def CommandFault.message (f : CommandFault) : String :=
  let errors := match f.errors with
    | some bs => Value.literal (.bytes bs)
    | none => Value.literal .null
  "Command '" ++ Value.bracketed "[" "]" (f.command.map quoted) ++ "' " ++ statusText f.status ++
    " [stderr: " ++ errors ++ "]"

end Landscape
