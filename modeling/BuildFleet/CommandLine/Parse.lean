import BuildFleet.CommandLine.Args
import BuildFleet.CommandLine.Stop
/-!
# Reading a command line

Options may come in any order and around the builder type, each at most once. `--status` takes a
value only behind `=`; `--count` and `--new-group` take one behind `=` or as the next word, unless
that starts with a dash. After `--` there are no options.

A value that is a word of its own, and the builder type, are looked at only when the next option or
word is accepted or the line ends; a word that cannot be accepted at all is reported first.
-/
namespace BuildFleet.CommandLine

def maxCount : Nat := UInt64.size - 1

def readDigits (n : Nat) : List Char → Except NumberFault Nat
  | [] => .ok n
  | c :: rest =>
    if !('0' ≤ c && c ≤ '9') then .error .invalidDigit
    else
      let next := n * 10 + (c.toNat - 48)
      if maxCount < next then .error .tooLarge else readDigits next rest

/-- Reads a count. One plus sign may stand in front. -/
def readCount (s : String) : Except NumberFault Nat :=
  match s.toList with
  | [] => .error .empty
  | '+' :: c :: rest => readDigits 0 (c :: rest)
  | cs => readDigits 0 cs

/-- What has been read of the arguments. -/
structure Draft where
  status : Option Bool := none
  count : Option Nat := none
  setup : Bool := false
  newGroup : Option String := none
  allOrNothing : Bool := false
  legacy : Bool := false
  builderType : Option String := none

namespace Draft

def used (d : Draft) : Opt → Bool
  | .status => d.status.isSome
  | .count => d.count.isSome
  | .setup => d.setup
  | .newGroup => d.newGroup.isSome
  | .allOrNothing => d.allOrNothing
  | .legacy => d.legacy

def assign (d : Draft) (option : Opt) (value : Option String) : Except Stop Draft :=
  match option, value with
  | .status, none => .ok { d with status := some true }
  | .status, some v =>
    if v = "true" then .ok { d with status := some true }
    else if v = "false" then .ok { d with status := some false }
    else if v = "" then .error (.valueMissing .status)
    else .error (.badStatus v)
  | .count, some v =>
    match readCount v with
    | .ok n => .ok { d with count := some n }
    | .error fault => .error (.badCount v fault)
  | .newGroup, some v => .ok { d with newGroup := some v }
  | .count, none | .newGroup, none => .error (.valueMissing option)
  | .setup, _ => .ok { d with setup := true }
  | .allOrNothing, _ => .ok { d with allOrNothing := true }
  | .legacy, _ => .ok { d with legacy := true }

/-- Sets an option that must not have been used before. -/
def set (d : Draft) (option : Opt) (value : Option String) : Except Stop Draft :=
  if d.used option then .error (.usedTwice option) else d.assign option value

/-- The arguments, with the defaults for what was left out. -/
def args (d : Draft) : CreateArgs where
  status := d.status.getD true
  count := d.count.getD 1
  setup := d.setup
  newGroup := d.newGroup
  allOrNothing := d.allOrNothing
  legacy := d.legacy
  builderType := d.builderType

end Draft

/-- A word that has not been looked at yet. -/
inductive Pending where
  | nothing
  /-- The option's value must come next. -/
  | option (option : Opt)
  | value (option : Opt) (value : String)
  | builderType (value : String)
  deriving DecidableEq

def Pending.resolve (d : Draft) : Pending → Except Stop Draft
  | nothing => .ok d
  | option o => .error (.valueMissing o)
  | value o v => d.set o (some v)
  | builderType v => .ok { d with builderType := some v }

def Pending.isBuilderType : Pending → Bool
  | builderType _ => true
  | _ => false

/-- A word that starts with two dashes: the name after them, and the value behind `=`. -/
def splitLong (word : List Char) : String × Option String :=
  let name := word.takeWhile (· ≠ '=')
  (String.ofList name, match word.dropWhile (· ≠ '=') with
    | [] => none
    | _ :: value => some (String.ofList value))

/-- The kinds of words that are not behind `--`. -/
inductive Word where
  | escape
  | long (name : String) (value : Option String)
  /-- Single-letter options; the first one counts. -/
  | short (letter : Char)
  | plain

/-- The kind of a word. A single dash is a plain word. -/
def Word.of (word : String) : Word :=
  match word.toList with
  | ['-', '-'] => .escape
  | '-' :: '-' :: rest => let (name, value) := splitLong rest; .long name value
  | '-' :: c :: _ => .short c
  | _ => .plain

def Opt.takesWord : Opt → Bool
  | .count | .newGroup => true
  | _ => false

def Opt.isFlag : Opt → Bool
  | .setup | .allOrNothing | .legacy => true
  | _ => false

/-- An option of the create command, by its name. -/
def readLong (d : Draft) (pending : Pending) (name : String) (value : Option String) :
    Except Stop (Draft × Pending) :=
  if name = "help" then
    match value with
    | some v => .error (.unexpectedValue v "--help")
    | none => (pending.resolve d).bind fun _ => .error (.help (createHelp "gomote create"))
  else match Opt.ofName? name, value with
    | none, _ => .error (.unknownArgument ("--" ++ name))
    | some o, none =>
      if o.takesWord then (pending.resolve d).map fun d => (d, .option o)
      else ((pending.resolve d).bind (·.set o none)).map fun d => (d, .nothing)
    | some o, some v =>
      if o.isFlag then .error (.unexpectedValue v o.usage)
      else ((pending.resolve d).bind (·.set o (some v))).map fun d => (d, .nothing)

/-- A word that stands for itself. -/
def readPlain (d : Draft) (pending : Pending) (word : String) : Except Stop (Draft × Pending) :=
  if d.builderType.isSome || pending.isBuilderType then .error (.unknownArgument word)
  else (pending.resolve d).map fun d => (d, .builderType word)

/-- The next word of the create command, where options are allowed. -/
def readWord (d : Draft) (pending : Pending) (word : String) : Except Stop (Draft × Pending) :=
  match Word.of word, pending with
  | .long name value, _ => readLong d pending name value
  | .short c, _ =>
    if c = 'h' then (pending.resolve d).bind fun _ => .error (.help (createHelp "gomote create"))
    else .error (.unknownArgument (String.ofList ['-', c]))
  | .plain, .option o => .ok (d, .value o word)
  | .plain, _ => readPlain d pending word
  | .escape, _ => .ok (d, pending)

/-- The words of the create command; after `--` they all stand for themselves. -/
def readWords (d : Draft) (pending : Pending) (escaped : Bool) :
    List String → Except Stop CreateArgs
  | [] => (pending.resolve d).map Draft.args
  | word :: rest =>
    match (if escaped then readPlain d pending word else readWord d pending word) with
    | .error stop => .error stop
    | .ok (d, pending) => readWords d pending (escaped || word == "--") rest

def readCreate (words : List String) : Except Stop CreateArgs := readWords {} .nothing false words

/-- What the help command shows for the commands behind it. -/
def helpFor : List String → Stop
  | [] => .help programHelp
  | name :: rest =>
    if name = "create" ∨ name = "help" then
      match rest with
      | [] => .help (if name = "create" then createHelp "gomote create" else helpHelp)
      | other :: _ => .unknownCommand other
    else .unknownCommand name

/-- Reads a command line without the program's name; after `--` there is no command. -/
def readFrom (escaped : Bool) : List String → Except Stop CreateArgs
  | [] => .error .nothingToDo
  | word :: rest =>
    if escaped then
      .error (if word = "create" ∨ word = "help" then .unknownArgument word
        else .unknownCommand word)
    else if word = "create" then readCreate rest
    else if word = "help" then .error (helpFor rest)
    else match Word.of word with
      | .escape => readFrom true rest
      | .long name value =>
        if name = "help" ∨ name = "version" then
          .error <| match value with
            | some v => .unexpectedValue v ("--" ++ name)
            | none => if name = "help" then .help programHelp else .version
        else .error (.unknownArgument ("--" ++ name))
      | .short c =>
        .error <| if c = 'h' then .help programHelp
          else if c = 'V' then .version
          else .unknownArgument (String.ofList ['-', c])
      | .plain => .error (.unknownCommand word)

def read (words : List String) : Except Stop CreateArgs := readFrom false words

end BuildFleet.CommandLine
