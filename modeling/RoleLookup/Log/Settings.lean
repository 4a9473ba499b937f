/-!
# Log settings

* `Log.Format`, the layout of a log line;
* `Log.Time`, the time stamp in front of it;
* `Log.Fields`, what else a line shows;
* `Log.Settings`, all of these and the directives that choose which events are logged.
-/

namespace RoleLookup.Log

/-- Layout of a log line. -/
inductive Format
  | compact
  | pretty
  | full
  | json (flatten currentSpan spanList : Bool)
  deriving DecidableEq, Repr

/-- The format of a time stamp that is not given. -/
def defaultTimeFormat : String := "%F %T"

/-- Time stamp of a log line. -/
inductive Time
  | none
  | uptime
  | system
  | utc (format : String)
  | local (format : String)
  deriving DecidableEq, Repr

/-- What a log line shows. -/
structure Fields where
  /-- Whether colours are used. -/
  ansi : Bool := true
  file : Bool := false
  level : Bool := true
  lineNumber : Bool := false
  target : Bool := true
  threadId : Bool := false
  threadName : Bool := false
  /-- Whether the start and the end of an activity are logged too. -/
  spanEvents : Bool := false
  time : Time := .system
  deriving DecidableEq, Repr

/-- What is logged, and how. -/
structure Settings where
  format : Format := .full
  fields : Fields := {}
  filter : List String := ["info"]
  deriving DecidableEq, Repr

end RoleLookup.Log
