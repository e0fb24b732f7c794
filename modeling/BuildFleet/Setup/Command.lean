import BuildFleet.FileSystem
import BuildFleet.Text.Utf8
/-!
# Commands

Starting a program and what is left of it when it has ended. Endings are told the way a shell user
knows them: by exit status or by signal.
-/
namespace BuildFleet

structure Command where
  program : String
  args : List String
  /-- The value of `GOROOT` that the program gets, unless it inherits the environment's. -/
  goroot : Option String
  deriving DecidableEq, Repr

inductive Ending where
  | exited (status : Nat)
  | killed (signal : Nat)
  deriving DecidableEq, Repr

namespace Ending

def signalNames : List (Nat × String) := [
  (1, "SIGHUP"), (2, "SIGINT"), (3, "SIGQUIT"), (4, "SIGILL"), (5, "SIGTRAP"), (6, "SIGABRT"),
  (7, "SIGBUS"), (8, "SIGFPE"), (9, "SIGKILL"), (10, "SIGUSR1"), (11, "SIGSEGV"),
  (12, "SIGUSR2"), (13, "SIGPIPE"), (14, "SIGALRM"), (15, "SIGTERM"), (16, "SIGSTKFLT"),
  (17, "SIGCHLD"), (18, "SIGCONT"), (19, "SIGSTOP"), (20, "SIGTSTP"), (21, "SIGTTIN"),
  (22, "SIGTTOU"), (23, "SIGURG"), (24, "SIGXCPU"), (25, "SIGXFSZ"), (26, "SIGVTALRM"),
  (27, "SIGPROF"), (28, "SIGWINCH"), (29, "SIGIO"), (30, "SIGPWR"), (31, "SIGSYS")]

/-- Only the exit status zero is success. -/
def isSuccess : Ending → Bool
  | exited status => status == 0
  | killed _ => false

def message : Ending → String
  | exited status => "exit status: " ++ toString status
  | killed signal =>
    "signal: " ++ toString signal ++ match signalNames.lookup signal with
      | some name => " (" ++ name ++ ")"
      | none => ""

end Ending

structure Output where
  stdout : List UInt8
  stderr : List UInt8
  ending : Ending
  deriving DecidableEq, Repr

inductive Executable where
  | missing
  | notExecutable
  | working (output : Output)

/-- Starts a command. Nothing that is passed to a program can hold a NUL. -/
def Command.start (c : Command) (executable : Executable) : Except IoError Output :=
  let texts := c.program :: c.args ++ c.goroot.toList
  if texts.any fun s => s.toList.contains '\x00' then .error .nulInArgument
  else match executable with
    | .missing => .error .notFound
    | .notExecutable => .error .permissionDenied
    | .working output => .ok output

end BuildFleet
