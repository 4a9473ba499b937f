/-!
# Log events

What the library reports while it works.

* `Level`, from the most to the least severe;
* `Value`, the value of a field;
* `Span`, an activity within which events happen;
* `Event`, one report, with the spans around it, outermost first.
-/

namespace RoleLookup.Log

/-- Severity of an event. -/
inductive Level
  | error
  | warn
  | info
  | debug
  | trace
  deriving DecidableEq, Repr

/-- Number of a level; the more verbose, the greater. -/
def Level.verbosity : Level → Nat
  | .error => 1
  | .warn => 2
  | .info => 3
  | .debug => 4
  | .trace => 5

/-- Name of a level. -/
def Level.name : Level → String
  | .error => "ERROR"
  | .warn => "WARN"
  | .info => "INFO"
  | .debug => "DEBUG"
  | .trace => "TRACE"

/-- Value of a field: a text, an already formatted text or a number. -/
inductive Value
  | text (s : String)
  | shown (s : String)
  | number (n : Nat)
  deriving DecidableEq, Repr

/-- A value without quotes. -/
def Value.plain : Value → String
  | .text s | .shown s => s
  | .number n => toString n

/-- A field and its value. -/
structure Field where
  name : String
  value : Value
  deriving DecidableEq, Repr

/-- An activity within which events happen. -/
structure Span where
  level : Level
  target : String
  name : String
  fields : List Field
  deriving DecidableEq, Repr

/-- One report. The target is the part of the program that makes it. -/
structure Event where
  level : Level
  target : String
  message : Option String
  fields : List Field
  spans : List Span
  deriving DecidableEq, Repr

/-- An event within one more span, the outermost. -/
def Event.within (e : Event) (s : Span) : Event := { e with spans := s :: e.spans }

/-- An event within more spans, given outermost first. -/
def Event.withinAll (e : Event) (ss : List Span) : Event := { e with spans := ss ++ e.spans }

/-- An event in one line, without target and spans. -/
def Event.line (e : Event) : String :=
  " ".intercalate (e.level.name :: (e.message.toList ++
    e.fields.map fun f => f.name ++ "=" ++ f.value.plain))

end RoleLookup.Log
