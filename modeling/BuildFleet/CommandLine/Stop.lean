import BuildFleet.CommandLine.Help
import BuildFleet.Text.Terminal
/-!
# Why a command line is not carried out

A command line may ask for help, or be faulty. Either way it says what is to be printed and how the
program exits.
-/
namespace BuildFleet.CommandLine

inductive Opt where
  | status
  | count
  | setup
  | newGroup
  | allOrNothing
  | legacy
  deriving DecidableEq, Repr

namespace Opt

def all : List Opt := [status, count, setup, newGroup, allOrNothing, legacy]

/-- The name of an option after the two dashes. -/
def name : Opt → String
  | status => "status"
  | count => "count"
  | setup => "setup"
  | newGroup => "new-group"
  | allOrNothing => "all-or-nothing"
  | legacy => "legacy"

/-- An option with its value, as messages have it. -/
def usage : Opt → String
  | status => "--status[=<STATUS>]"
  | count => "--count <COUNT>"
  | newGroup => "--new-group <NAME>"
  | o => "--" ++ o.name

def ofName? (name : String) : Option Opt := all.find? (·.name == name)

end Opt

inductive NumberFault where
  | empty
  | invalidDigit
  | tooLarge
  deriving DecidableEq, Repr

def NumberFault.message : NumberFault → String
  | empty => "cannot parse integer from empty string"
  | invalidDigit => "invalid digit found in string"
  | tooLarge => "number too large to fit in target type"

/-- Why a command line is not carried out. -/
inductive Stop where
  | help (text : String)
  | version
  /-- No command was given, so help is shown. -/
  | nothingToDo
  | usedTwice (option : Opt)
  | valueMissing (option : Opt)
  | badStatus (value : String)
  | badCount (value : String) (fault : NumberFault)
  /-- The argument takes no value. -/
  | unexpectedValue (value argument : String)
  | unknownArgument (argument : String)
  | unknownCommand (name : String)
  deriving DecidableEq, Repr

namespace Stop

/-- A word of the command line in a message. It cannot steer the terminal. -/
def inQuotes (word : String) : String := "'" ++ Terminal.plain word ++ "'"

/-- What is printed; of a fault, the part that names it. -/
def message : Stop → String
  | help text => text
  | version => CommandLine.version
  | nothingToDo => programHelp
  | usedTwice option =>
    "error: the argument '" ++ option.usage ++ "' cannot be used multiple times"
  | valueMissing option =>
    "error: a value is required for '" ++ option.usage ++ "' but none was supplied"
  | badStatus value =>
    "error: invalid value " ++ inQuotes value ++ " for '" ++ Opt.status.usage ++ "'"
  | badCount value fault =>
    "error: invalid value " ++ inQuotes value ++ " for '" ++ Opt.count.usage ++ "': " ++
      fault.message
  | unexpectedValue value argument =>
    "error: unexpected value " ++ inQuotes value ++ " for '" ++ argument ++
      "' found; no more were expected"
  | unknownArgument argument => "error: unexpected argument " ++ inQuotes argument ++ " found"
  | unknownCommand name => "error: unrecognized subcommand " ++ inQuotes name

/-- All that is printed. A fault comes with advice. -/
def text (s : Stop) : String :=
  match s with
  | help _ | version | nothingToDo => s.message
  | _ => s.message ++ "\n\nFor more information, try '--help'.\n"

/-- Help and version that were asked for are no failure. -/
def exitCode : Stop → Nat
  | help _ | version => 0
  | _ => 2

end Stop

end BuildFleet.CommandLine
