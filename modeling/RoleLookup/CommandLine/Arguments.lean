import RoleLookup.CommandLine.Help
import RoleLookup.Text.Quoted

/-!
# Command line arguments

* `Task`, what the program is asked to do;
* `Arguments.parse`, the task and the options that a command line holds;
* `Refusal`, why a command line is not followed. Asking for help is one of the reasons.

Options of the program stand before its command. A value of an option that is given on its own
counts only when the next argument has been looked at, so a mistake in that one comes first.
-/

namespace RoleLookup

/-- What the program is asked to do. -/
inductive Task
  | lookup (user : String)
  | health
  | watch
  deriving DecidableEq, Repr

/-- A task as it is logged. -/
def Task.text : Task → String
  | .lookup user => "Lookup(" ++ Text.quoted user ++ ")"
  | .health => "Health"
  | .watch => "Watch"

namespace CommandLine

/-- The contents of a command line. -/
structure Arguments where
  task : Task
  /-- File with the configuration. -/
  configuration : String := defaultConfiguration
  /-- How much is logged before the configuration is read. -/
  verbosity : Nat := 0
  deriving DecidableEq, Repr

/-- Why a command line is not followed. -/
inductive Refusal
  | help (text : String)
  | version
  | missingCommand
  | unknownCommand
  | missingArgument
  | unknownArgument
  | missingValue
  | tooManyValues
  | repeatedOption
  deriving DecidableEq, Repr

/-- What is printed for those who asked for it. -/
def Refusal.answer? : Refusal → Option String
  | .help text => some text
  | .version => some versionText
  | _ => none

/-- What is complained of to those who did not. -/
def Refusal.complaint? : Refusal → Option String
  | .help _ | .version => none
  | .missingCommand => some "no command given"
  | .unknownCommand => some "unknown command"
  | .missingArgument => some "an argument of the command is missing"
  | .unknownArgument => some "unexpected argument"
  | .missingValue => some "an option is without its value"
  | .tooManyValues => some "an option has a value and takes none"
  | .repeatedOption => some "an option is given more than once"

/-- Exit code of the program. -/
def Refusal.exitCode (r : Refusal) : Nat := if r.answer?.isSome then 0 else 2

/-! ### Options -/

/-- An option that takes a value and stands on its own. -/
inductive Pending
  | none
  /-- The value has not been met. -/
  | awaiting
  | given (value : String)
  deriving DecidableEq, Repr

/-- The options so far. -/
structure Options where
  configuration : Option String := .none
  pending : Pending := .none
  verbosity : Nat := 0
  deriving Repr

namespace Options

/-- Greatest verbosity that is told apart. -/
def greatestVerbosity : Nat := 255

/-- Sets the configuration, which can be done once. -/
def setConfiguration (o : Options) (value : String) : Except Refusal Options :=
  if o.configuration.isSome then .error .repeatedOption
  else .ok { o with configuration := some value }

/-- Settles an option that stood on its own. -/
def settle (o : Options) : Except Refusal Options :=
  match o.pending with
  | .none => .ok o
  | .awaiting => .error .missingValue
  | .given value => { o with pending := .none }.setConfiguration value

/-- Counts a request to log more. -/
def countVerbose (o : Options) : Options :=
  { o with verbosity := min (o.verbosity + 1) greatestVerbosity }

/-- Short options in one argument. The rest of the argument is the value of an option that takes
one. -/
def short (o : Options) : List Char → Except Refusal Options
  | [] => .ok o
  | 'c' :: rest => do
    let o ← o.settle
    match rest with
    | [] => return { o with pending := .awaiting }
    | '=' :: value => o.setConfiguration (String.ofList value)
    | value => o.setConfiguration (String.ofList value)
  | 'v' :: rest => do
    let o ← o.settle
    o.countVerbose.short rest
  | 'h' :: _ => do
    let _ ← o.settle
    throw (.help mainPage.text)
  | 'V' :: _ => do
    let _ ← o.settle
    throw .version
  | _ => .error .unknownArgument

/-- A long option, with its value if it is part of the argument. -/
def long (o : Options) (name : String) (value : Option String) : Except Refusal Options :=
  match name, value with
  | "config", none => do return { ← o.settle with pending := .awaiting }
  | "config", some value => do (← o.settle).setConfiguration value
  | "verbose", none => do return (← o.settle).countVerbose
  | "help", none => do
    let _ ← o.settle
    throw (.help mainPage.text)
  | "version", none => do
    let _ ← o.settle
    throw .version
  | "verbose", some _ | "help", some _ | "version", some _ => .error .tooManyValues
  | _, _ => .error .unknownArgument

end Options

/-- What an argument looks like. -/
inductive Shape
  | word
  /-- Nothing behind it is an option. -/
  | escape
  | short (flags : List Char)
  | long (name : String) (value : Option String)
  deriving DecidableEq, Repr

/-- The shape of an argument. -/
def shape (argument : String) : Shape :=
  match argument.toList with
  | ['-', '-'] => .escape
  | '-' :: '-' :: rest =>
    let name := rest.takeWhile (· != '=')
    let value := rest.drop (name.length + 1)
    .long (String.ofList name)
      (if name.length < rest.length then some (String.ofList value) else none)
  | ['-'] => .word
  | '-' :: rest => .short rest
  | _ => .word

/-! ### Commands -/

/-- The first request for help among short options, or the first unknown one. -/
def shortOfCommand (c : Command) : List Char → Except Refusal Unit
  | [] => .ok ()
  | 'h' :: _ => .error (.help c.page.text)
  | _ => .error .unknownArgument

/-- A long option of a command. -/
def longOfCommand (c : Command) (name : String) (value : Option String) : Except Refusal Unit :=
  match name, value with
  | "help", none => .error (.help c.page.text)
  | "help", some _ => .error .tooManyValues
  | _, _ => .error .unknownArgument

/-- The words behind a command, which takes a number of them at most. -/
def wordsOf (c : Command) (limit : Nat) (escaped : Bool) (words : List String) :
    List String → Except Refusal (List String)
  | [] => .ok words
  | a :: rest =>
    match if escaped then .word else shape a with
    | .escape => wordsOf c limit true words rest
    | .short flags => do
      shortOfCommand c flags
      wordsOf c limit escaped words rest
    | .long name value => do
      longOfCommand c name value
      wordsOf c limit escaped words rest
    | .word =>
      if words.length < limit then wordsOf c limit escaped (words ++ [a]) rest
      else .error .unknownArgument

/-- The help on what the arguments name. -/
def helpOn : List String → Refusal
  | [] => .help mainPage.text
  | [a] =>
    match Command.ofName? a with
    | some c => .help c.page.text
    | none => .unknownCommand
  | _ => .unknownCommand

/-- The task of a command. -/
def taskOf (c : Command) (rest : List String) : Except Refusal Task :=
  match c with
  | .lookup => do
    match ← wordsOf c 1 false [] rest with
    | user :: _ => return .lookup user
    | [] => throw .missingArgument
  | .health => do
    let _ ← wordsOf c 0 false [] rest
    return .health
  | .watch => do
    let _ ← wordsOf c 0 false [] rest
    return .watch
  | .help => .error (helpOn rest)

/-- A word that is no command. Behind an escape, a command is taken for an argument too many. -/
def strayWord (escaped : Bool) (a : String) : Refusal :=
  if escaped && (Command.ofName? a).isSome then .unknownArgument else .unknownCommand

/-- The arguments from one on. -/
def parseFrom (o : Options) (escaped : Bool) : List String → Except Refusal Arguments
  | [] => do
    let _ ← o.settle
    throw .missingCommand
  | a :: rest =>
    if escaped then .error (strayWord true a)
    else
      match shape a with
      | .escape => parseFrom o true rest
      | .short flags => do parseFrom (← o.short flags) false rest
      | .long name value => do parseFrom (← o.long name value) false rest
      | .word =>
        if o.pending == .awaiting then parseFrom { o with pending := .given a } false rest
        else
          match Command.ofName? a with
          | some c => do
            let task ← taskOf c rest
            let o ← o.settle
            return ⟨task, o.configuration.getD defaultConfiguration, o.verbosity⟩
          | none => .error (strayWord false a)

/-- The contents of a command line, given its arguments. -/
def parse (arguments : List String) : Except Refusal Arguments := parseFrom {} false arguments

end CommandLine

end RoleLookup
