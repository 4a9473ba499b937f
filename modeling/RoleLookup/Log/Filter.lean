import RoleLookup.Log.Directive

/-!
# Log filters

Directives together decide which events are logged, and within which spans they are shown.

* A directive about targets alone, and fields without values, is *static*: of the static
  directives that match, the most specific one decides.
* A directive about spans or fields is *dynamic*: within a span that it is about, it lets through
  what it says, whatever the target.

Main definitions:

* `Filter.ofDirectives`, the filter of some directives, and `Filter.parse`, that of a text;
* `Filter.view?`, an event as it is shown, if it is.
-/

namespace RoleLookup.Log

namespace Directive

/-- Whether a directive is about spans or fields. -/
def isDynamic (d : Directive) : Bool := d.span.isSome || !d.fields.isEmpty

/-- Whether a directive decides without a look at spans. -/
def isStatic (d : Directive) : Bool := d.span.isNone && d.fields.all (·.value.isNone)

/-- Whether a target starts as a directive wants. -/
def wantsTarget (d : Directive) (target : String) : Bool :=
  match d.target with
  | some start => start.toList.isPrefixOf target.toList
  | none => true

/-- The names of the fields of a directive. -/
def fieldNames (d : Directive) : List String := d.fields.map (·.name)

/-- Whether a directive is about a span, whatever the values of its fields. -/
def isAbout (d : Directive) (s : Span) : Bool :=
  d.wantsTarget s.target && (d.span.all (· == s.name)) &&
    d.fieldNames.all (s.fields.map (·.name)).contains

/-- Whether the fields of a span have the values that a directive wants. -/
def wantsValues (d : Directive) (s : Span) : Bool :=
  d.fields.all fun demand =>
    match demand.value with
    | none => true
    | some test => s.fields.any fun f => f.name == demand.name && test.accepts f.value

/-- How specific a directive about targets is: the longer its target the more, and then the more
fields it has. Directives that are as specific as each other are in the order of their texts. -/
def compareSpecificity (d e : Directive) : Ordering :=
  let length (d : Directive) := (d.target.map (·.utf8ByteSize + 1)).getD 0
  (compare (length d) (length e)).then
    ((compare d.fields.length e.fields.length).then
      ((compare (d.target.getD "") (e.target.getD "")).then
        (compare d.fieldNames e.fieldNames)))

/-- Whether two directives are about the same. -/
def sameSubject (d e : Directive) : Bool :=
  d.target == e.target && d.span == e.span && d.fields == e.fields

end Directive

/-- What is logged. -/
structure Filter where
  /-- The static directives, the most specific one first. -/
  statics : List Directive := []
  dynamics : List Directive := []
  /-- No directive lets more through. -/
  ceiling : Verbosity := 0
  deriving DecidableEq, Repr

namespace Filter

/-! ### Construction -/

/-- Static directives with one more in its place; it replaces one that is about the same. -/
def insertStatic (d : Directive) : List Directive → List Directive
  | [] => [d]
  | e :: es =>
    match d.compareSpecificity e with
    | .gt => d :: e :: es
    | .eq => d :: es
    | .lt => e :: insertStatic d es

/-- Dynamic directives with one more; it replaces one that is about the same. -/
def insertDynamic (d : Directive) (ds : List Directive) : List Directive :=
  d :: ds.filter fun e => !d.sameSubject e

/-- The filter of some directives. Without any, nothing is logged. A later directive counts more
than an earlier one about the same, and one about targets alone counts less than one about fields
without values. -/
def ofDirectives (ds : List Directive) : Filter :=
  let plain := ds.filter fun d => !d.isDynamic
  let dynamics := ds.filter Directive.isDynamic
  { statics := (plain ++ dynamics.filter Directive.isStatic).foldl (fun s d => insertStatic d s) []
    dynamics := dynamics.foldl (fun s d => insertDynamic d s) []
    ceiling :=
      if dynamics.any fun d => d.fields.any (·.value.isSome) then .everything
      else ds.foldl (fun v d => max v d.verbosity) 0 }

/-- The filter of a text. -/
def parse (s : String) : Except Directive.Error Filter := (directives s).map ofDirectives

/-! ### Decisions -/

/-- What the static directives let through of a target. Events are also asked for their fields. -/
def verbosityOf (f : Filter) (target : String) (fields : Option (List String)) : Verbosity :=
  let matching := f.statics.find? fun d =>
    d.wantsTarget target && fields.all fun names => d.fieldNames.all names.contains
  (matching.map (·.verbosity)).getD 0

/-- What is let through within a span, if some dynamic directive is about it. -/
def verbosityIn? (f : Filter) (s : Span) : Option Verbosity :=
  match f.dynamics.filter (·.isAbout s) with
  | [] => none
  | ds => some ((ds.filter (·.wantsValues s)).foldl (fun v d => max v d.verbosity) 0)

/-- The spans that are shown, and what is let through within all of them. -/
def spans (f : Filter) (within : Verbosity) : List Span → List Span × Verbosity
  | [] => ([], within)
  | s :: ss =>
    let level := s.level.verbosity
    match f.verbosityIn? s with
    | some inside =>
      if level ≤ f.ceiling then
        let (shown, all) := f.spans (max within inside) ss
        (s :: shown, all)
      else f.spans within ss
    | none =>
      let (shown, all) := f.spans within ss
      if level ≤ max within (f.verbosityOf s.target none) then (s :: shown, all)
      else (shown, all)

/-- The names of the fields of an event, its message among them. -/
def eventFields (e : Event) : List String :=
  (e.message.map fun _ => "message").toList ++ e.fields.map (·.name)

/-- An event within the spans that are shown, if it is logged. -/
def view? (f : Filter) (e : Event) : Option Event :=
  let (spans, within) := f.spans 0 e.spans
  if e.level.verbosity ≤ max within (f.verbosityOf e.target (some (eventFields e))) then
    some { e with spans }
  else none

end Filter

end RoleLookup.Log
