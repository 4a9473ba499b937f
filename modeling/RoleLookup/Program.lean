import RoleLookup.CommandLine.Arguments
import RoleLookup.Configuration.Document
import RoleLookup.Log.Filter
import RoleLookup.Log.Layout
import RoleLookup.Service

/-!
# The program

* `Logging`, which events are logged, and how; first by the verbosity asked for on the command
  line, then by the configuration;
* `Output`, what is written to standard output;
* `Program.run`, the program from its arguments to its end, or to where it starts to watch;
* `Watch`, a program that watches: `Watch.round`, what its reporters do at a time, and
  `Watch.stop`, how it ends.
-/

namespace RoleLookup

open Directory (Client Network)

/-! ### Output -/

/-- Something that is written to standard output. -/
inductive Output
  | printed (text : String)
  | logged (layout : Log.Layout) (event : Log.Event)
  deriving Repr

/-- The text that is written at a time. -/
def Output.text (c : Log.Clock) : Output → String
  | .printed s => s
  | .logged layout e => layout.write c e

/-- Something that the program does for all to see, before it is known which events are logged. -/
inductive Act
  | print (text : String)
  | log (event : Log.Event)
  deriving Repr

/-- Which events are logged, and how. -/
structure Logging where
  filter : Log.Filter
  layout : Log.Layout
  deriving Repr

namespace Logging

/-- What is written for an act. -/
def output? (g : Logging) : Act → Option Output
  | .print s => some (.printed s)
  | .log e => (g.filter.view? e).map (.logged g.layout)

/-- What is written for acts. -/
def outputs (g : Logging) (as : List Act) : List Output := as.filterMap g.output?

/-- What is written for events. -/
def events (g : Logging) (es : List Log.Event) : List Output := g.outputs (es.map .log)

/-- An event of this part. -/
def event (level : Log.Level) (message : String) (fields : List Log.Field) : Log.Event :=
  ⟨level, "tiny_roles_main::logging", some message, fields, []⟩

/-- The level that a verbosity on the command line asks for. -/
def levelOf : Nat → Log.Level
  | 0 => .info
  | 1 => .debug
  | _ => .trace

/-- Logging before the configuration is known. With colours, those of spans are shown too. -/
def ofVerbosity (colours : Bool) (verbosity : Nat) : Logging where
  filter := .ofDirectives [{ verbosity := (levelOf verbosity).verbosity }]
  layout := {
    fields := {
      ansi := colours
      spanEvents := 2 ≤ verbosity
      time := if verbosity = 0 then .none else .system }
    spanColours := colours }

/-- Logging as the configuration wants it, and what is written meanwhile. If there is no such
filter, nothing changes. -/
def apply (s : Log.Settings) (g : Logging) : Logging × List Output :=
  let first := g.events [event .debug "swapping log filter" []]
  match Log.Filter.parse (",".intercalate s.filter) with
  | .error e =>
    (g, first ++ g.events
      [event .error "invalid log filters, keeping the previous ones" [⟨"e", .shown e.message⟩]])
  | .ok filter =>
    let filtered := { g with filter }
    let new := { filtered with
      layout := { g.layout with format := s.format, fields := s.fields } }
    (new, first ++ filtered.events [event .debug "swapping log format" []] ++
      new.events [event .info "log configuration applied" []])

end Logging

/-! ### Tasks -/

namespace Program

/-- Why a task fails. -/
inductive Error
  | setup (cause : Service.BuildError)
  | lookup (cause : LookupError)
  deriving DecidableEq, Repr

/-- Wording of an error. -/
def Error.message : Error → String
  | .setup cause => cause.message
  | .lookup cause => "role lookup failed: " ++ cause.message

/-- How a task ends. -/
inductive Result
  | succeeded
  /-- It did what it was asked to, and the answer is no good news. -/
  | unsuccessful
  | failed (error : Error)
  /-- The program ends at once and complains. -/
  | crashed (message : String)
  deriving DecidableEq, Repr

/-- The exit code of the program after a task. -/
def Result.exitCode : Result → Nat
  | .succeeded => 0
  | .unsuccessful | .failed _ => 1
  | .crashed _ => 101

/-- An event of the program itself. -/
def event (level : Log.Level) (message : Option String) (fields : List Log.Field) : Log.Event :=
  ⟨level, "tiny_roles", message, fields, []⟩

/-- The span of a task. -/
def taskSpan (task : Task) : Log.Span :=
  ⟨.info, "tiny_roles_main::runtime", "execute", [⟨"task", .shown task.text⟩]⟩

/-- Logged at the end of a task. -/
def Result.events : Result → List Log.Event
  | .failed e => [event .error none [⟨"e", .shown e.message⟩]]
  | _ => []

/-- The roles of a user as they are printed: one a line, in ascending order. -/
def rolesText (roles : RoleSet) : String := String.join (roles.toList.map (· ++ "\n"))

/-- Statements as they are printed. -/
def statementsText (ss : List Health.Statement) : String := (Health.reportOf ss).pretty ++ "\n"

variable {ν : Type}

/-- The roles of a user are printed. -/
def lookup (net : Network ν) (user : String) (s : Service ν) : List Act × Result :=
  let (_, events, outcome) := s.lookup net user
  let logged := events.map Act.log
  match outcome with
  | some (.roles roles) => (logged ++ [.print (rolesText roles)], .succeeded)
  | some (.failed e) => (logged, .failed (.lookup e))
  | some (.crashed message) => (logged, .crashed message)
  | none => (logged, .unsuccessful)

/-- The statements of all checks are printed. -/
def health (net : Network ν) (span : Log.Span) (s : Service ν) : List Act × Result :=
  let (_, events, statements) := s.runHealth net
  (events.map (fun e => .log (e.within span)) ++ [.print (statementsText statements)],
    if Health.allHealthy statements then .succeeded else .unsuccessful)

end Program

/-! ### Watching -/

/-- A program that watches. -/
structure Watch (ν : Type) where
  logging : Logging
  span : Log.Span
  service : Service ν
  reporters : List (Service.Reporting ν)

namespace Watch

variable {ν : Type}

/-- A program that starts to watch, and what is written meanwhile. -/
def ofService (net : Network ν) (g : Logging) (span : Log.Span) (s : Service ν) :
    Watch ν × List Output :=
  let reporters := s.reporters net
  (⟨g, span, s, reporters⟩, g.events [
    (⟨.info, "tiny_roles_main::runtime", some "watching health",
      [⟨"reporters", .number reporters.length⟩], []⟩ : Log.Event).within span,
    (⟨.debug, "tiny_roles_main::terminate", some "signal handler ready", [], []⟩ :
      Log.Event).within span])

/-- What the reporters do at a time, in milliseconds since they started. -/
def round (now : Nat) (w : Watch ν) : Watch ν × List Output :=
  let (reporters, service, publications) := w.service.reportRound now w.reporters
  ({ w with reporters, service },
    w.logging.events (publications.flatMap fun p => p.events ++ [p.statement.event]))

/-- When the next reporter is due. -/
def nextDeadline (w : Watch ν) : Option Nat :=
  (w.reporters.map (·.reporter.deadline)).min?

/-- What is written when the program is told to stop. -/
def stop (w : Watch ν) : List Output :=
  w.logging.events [(⟨.info, "tiny_roles_main::terminate", some "exiting", [], []⟩ :
    Log.Event).within w.span]

end Watch

/-! ### The whole -/

namespace Program

variable {ν : Type}

/-- A run of the program, to its end or to where it starts to watch. -/
inductive Run (ν : Type)
  /-- The end: what was written, the exit code, and what was complained of. -/
  | ended (output : List Output) (exitCode : Nat) (complaint : Option String)
  | watching (output : List Output) (watch : Watch ν)

/-- A run with more output in front. -/
def Run.after (output : List Output) : Run ν → Run ν
  | .ended more exitCode complaint => .ended (output ++ more) exitCode complaint
  | .watching more watch => .watching (output ++ more) watch

/-- The end of a run with the result of its task. -/
def ending (g : Logging) (acts : List Act) (r : Result) : Run ν :=
  let complaint :=
    match r with
    | .crashed message => some message
    | _ => none
  .ended (g.outputs (acts ++ r.events.map .log)) r.exitCode complaint

/-- A task is carried out. -/
def execute (net : Network ν) (g : Logging) (files : Files) (c : Configuration)
    (task : Task) (network : ν) : Run ν :=
  let span := taskSpan task
  let (setup, service) := Service.build c files network
  let acts := setup.map fun e => Act.log (e.within span)
  match service with
  | .error (.cache e) => ending g acts (.crashed e.message)
  | .error e => ending g acts (.failed (.setup e))
  | .ok s =>
    match task with
    | .lookup user =>
      let (more, result) := lookup net user (s.within [span])
      ending g (acts ++ more) result
    | .health =>
      let (more, result) := health net span s
      ending g (acts ++ more) result
    | .watch =>
      let (watch, output) := Watch.ofService net g span s
      .watching (g.outputs acts ++ output) watch

/-- The program. Colours before the configuration is known are a matter of the surroundings. -/
def run (net : Network ν) (colours : Bool) (files : Files) (arguments : List String)
    (network : ν) : Run ν :=
  match CommandLine.parse arguments with
  | .error r => .ended (r.answer?.toList.map .printed) r.exitCode r.complaint?
  | .ok a =>
    let g := Logging.ofVerbosity colours a.verbosity
    let start := g.events [event .info (some "starting up") [],
      event .info (some "parsing config") [⟨"config_path", .shown a.configuration⟩]]
    match Configuration.read files a.configuration with
    | (reading, .error e) =>
      .ended (start ++ g.events (reading ++ [event .error none [⟨"e", .shown e.message⟩]])) 1 none
    | (reading, .ok c) =>
      let (configured, switching) := g.apply c.log
      (execute net configured files c a.task network).after
        (start ++ g.events reading ++ switching)

end Program

end RoleLookup
