import RoleLookup.Json.Basic
import RoleLookup.Log.Event
import RoleLookup.Log.Moment
import RoleLookup.Log.Settings
import RoleLookup.Text.Quoted

/-!
# Layout of log lines

* `Style`, how a piece of text looks on a terminal;
* `Layout`, the format of the lines and what they show;
* `Layout.write`, the lines of an event.

Events do not know where in a program they come from, nor on which thread they happen, and the
start and the end of a span are no events; so none of these is shown.
-/

namespace RoleLookup.Log

/-! ### Styles -/

/-- How a piece of text looks. The colour is a number. -/
structure Style where
  bold : Bool := false
  dimmed : Bool := false
  italic : Bool := false
  colour : Option Nat := none
  deriving DecidableEq, Repr

namespace Style

/-- The numbers that switch a style on. -/
def codes (s : Style) : List Nat :=
  (if s.bold then [1] else []) ++ (if s.dimmed then [2] else []) ++
    (if s.italic then [3] else []) ++ s.colour.toList

/-- The sequence that switches a style on. -/
def start (s : Style) : String :=
  if s.codes.isEmpty then "" else "\x1b[" ++ ";".intercalate (s.codes.map toString) ++ "m"

/-- The sequence that switches a style off. -/
def stop (s : Style) : String := if s.codes.isEmpty then "" else "\x1b[0m"

/-- A text in a style. -/
def paint (s : Style) (text : String) : String := s.start ++ text ++ s.stop

/-- A style if styles are shown at all. -/
def shownIf (s : Style) (colours : Bool) : Style := if colours then s else {}

/-- The style of a level. -/
def ofLevel : Level → Style
  | .error => { colour := some 31 }
  | .warn => { colour := some 33 }
  | .info => { colour := some 32 }
  | .debug => { colour := some 34 }
  | .trace => { colour := some 35 }

end Style

/-- A text in bold letters. -/
def bold (colours : Bool) (s : String) : String :=
  (Style.shownIf { bold := true } colours).paint s

/-- A text in dimmed letters. -/
def dimmed (colours : Bool) (s : String) : String :=
  (Style.shownIf { dimmed := true } colours).paint s

/-- A text in slanted letters. -/
def italic (colours : Bool) (s : String) : String :=
  (Style.shownIf { italic := true } colours).paint s

/-! ### Parts of lines -/

/-- When a line is written: the moment, and the nanoseconds since the program started. -/
structure Clock where
  moment : Moment
  uptime : Nat
  deriving DecidableEq, Repr

namespace Clock

/-- Seconds since the start of the program, with all decimals. -/
def uptimeText (c : Clock) : String :=
  Moment.padded .blanks 4 (c.uptime / 1000000000) ++ "." ++
    Moment.padded .zeros 9 (c.uptime % 1000000000) ++ "s"

/-- The time stamp of a kind, if it has a text. -/
def stamp? (c : Clock) : Time → Option String
  | .none => some ""
  | .uptime => some c.uptimeText
  | .system => some c.moment.universal
  | .utc format =>
    (Moment.ofUnix c.moment.unix c.moment.nanosecond 0).format? format
  | .local format => c.moment.format? format

end Clock

/-- Name of a level, filled up with blanks. -/
def Level.paddedName (l : Level) : String :=
  String.ofList (List.replicate (5 - l.name.length) ' ') ++ l.name

/-- Name of a level in its style, filled up with blanks. -/
def Level.text (l : Level) (colours : Bool) : String :=
  ((Style.ofLevel l).shownIf colours).paint l.paddedName

/-- A value as it stands in a line of text. -/
def Value.written : Value → String
  | .text s => Text.quoted s
  | .shown s => s
  | .number n => toString n

/-- A value as it stands in a line of JSON. -/
def Value.toJson : Value → Json.Value
  | .text s | .shown s => .text s
  | .number n => .integer n

/-- A field as it stands in a line of text. -/
def Field.text (f : Field) (colours : Bool) : String :=
  italic colours f.name ++ dimmed colours "=" ++ f.value.written

/-- Fields with blanks between them. -/
def fieldsText (fs : List Field) (colours : Bool) : String :=
  " ".intercalate (fs.map (·.text colours))

/-- The message and the fields of an event. -/
def Event.body (e : Event) (colours : Bool) : String :=
  " ".intercalate (e.message.toList ++ e.fields.map (·.text colours))

/-! ### Layouts -/

/-- The format of log lines and what they show. The fields of spans have a switch of their own for
colours. -/
structure Layout where
  format : Format := .full
  fields : Fields := {}
  spanColours : Bool := false
  deriving DecidableEq, Repr

namespace Layout

/-- The time stamp in front of a line of text, with a blank behind it. -/
def stamp (l : Layout) (c : Clock) : String :=
  if l.fields.time = .none then ""
  else
    let text := (c.stamp? l.fields.time).getD "<unknown time>"
    if l.fields.ansi then dimmed true text ++ " " else text ++ " "

/-- The level of an event, with a blank behind it. -/
def levelText (l : Layout) (e : Event) : String :=
  if l.fields.level then e.level.text l.fields.ansi ++ " " else ""

/-- The target of an event, with a colon behind it. -/
def targetText (l : Layout) (e : Event) : String :=
  if l.fields.target then dimmed l.fields.ansi e.target ++ dimmed l.fields.ansi ":" ++ " " else ""

/-- A span with its fields between braces. -/
def spanText (l : Layout) (s : Span) : String :=
  let ansi := l.fields.ansi
  let fields := fieldsText s.fields l.spanColours
  bold ansi s.name ++
    (if fields.isEmpty then "" else bold ansi "\x7b" ++ fields ++ bold ansi "\x7d") ++
    dimmed ansi ":"

/-- A line with everything in the order of reading. -/
def full (l : Layout) (c : Clock) (e : Event) : String :=
  let spans := String.join (e.spans.map l.spanText)
  l.stamp c ++ l.levelText e ++ (if e.spans.isEmpty then "" else spans ++ " ") ++
    l.targetText e ++ e.body l.fields.ansi ++ "\n"

/-- A line with the names of the spans in front and their fields at the end. -/
def compact (l : Layout) (c : Clock) (e : Event) : String :=
  let ansi := l.fields.ansi
  let names := String.join (e.spans.map fun s => bold ansi s.name ++ ":")
  let fields := e.spans.map fun s => fieldsText s.fields l.spanColours
  l.stamp c ++ l.levelText e ++ (if e.spans.isEmpty then "" else names ++ " ") ++
    l.targetText e ++ e.body ansi ++
    String.join ((fields.filter (!·.isEmpty)).map fun f => " " ++ dimmed ansi f) ++ "\n"

/-- A text in a style made bold, after which the style goes on. -/
def emphasised (style : Style) (colours : Bool) (text : String) : String :=
  { style with bold := colours : Style }.paint text ++ if colours then style.start else ""

/-- The message and the fields of an event with commas between them. -/
def prettyBody (e : Event) (style : Style) (colours : Bool) : String :=
  let field (f : Field) := emphasised style colours f.name ++ ": " ++ f.value.written
  ", ".intercalate (e.message.toList.map (style.start ++ ·) ++ e.fields.map field) ++ style.stop

/-- A line for the event and one for each of its spans, the innermost first, and an empty line. -/
def pretty (l : Layout) (c : Clock) (e : Event) : String :=
  let ansi := l.fields.ansi
  let style := (Style.ofLevel e.level).shownIf (ansi && l.fields.level)
  let target := if l.fields.target then emphasised style ansi e.target ++ ":" else ""
  let mark (s : String) :=
    (Style.shownIf { dimmed := true, italic := true } ansi).paint s
  let span (s : Span) :=
    let fields := fieldsText s.fields l.spanColours
    "    " ++ mark "in" ++ " " ++ (if l.fields.target then s.target ++ "::" else "") ++
      bold ansi s.name ++ (if fields.isEmpty then "" else " " ++ mark "with" ++ " " ++ fields) ++
      "\n"
  "  " ++ l.stamp c ++ l.levelText e ++ target ++ " " ++ prettyBody e style ansi ++ "\n" ++
    String.join (e.spans.reverse.map span) ++ "\n"

/-- A span as a JSON value: its fields in the order of their names, and its name. -/
def spanJson (s : Span) : Json.Value :=
  let fields := s.fields.mergeSort fun f g => f.name ≤ g.name
  .object (fields.map (fun f => (f.name, f.value.toJson)) ++ [("name", .text s.name)])

/-- A line of JSON. It needs a time stamp if one is to be shown. -/
def json (l : Layout) (flatten currentSpan spanList : Bool) (c : Clock) (e : Event) : String :=
  match c.stamp? l.fields.time with
  | none => ""
  | some stamp =>
    let fields := (e.message.toList.map fun m => ("message", Json.Value.text m)) ++
      e.fields.map fun f => (f.name, f.value.toJson)
    let ifShown (b : Bool) (k : String) (v : Json.Value) := if b then [(k, v)] else []
    let members :=
      ifShown (l.fields.time ≠ .none) "timestamp" (.text stamp) ++
      ifShown l.fields.level "level" (.text e.level.name) ++
      (if flatten then fields else [("fields", .object fields)]) ++
      ifShown l.fields.target "target" (.text e.target) ++
      (e.spans.getLast?.toList.flatMap fun s => ifShown currentSpan "span" (spanJson s)) ++
      ifShown (spanList && !e.spans.isEmpty) "spans" (.array (e.spans.map spanJson))
    (Json.Value.object members).compact ++ "\n"

/-- The lines of an event. -/
def write (l : Layout) (c : Clock) (e : Event) : String :=
  match l.format with
  | .compact => l.compact c e
  | .pretty => l.pretty c e
  | .full => l.full c e
  | .json flatten currentSpan spanList => l.json flatten currentSpan spanList c e

end Layout

end RoleLookup.Log
