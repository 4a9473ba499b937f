import RoleLookup.Log.Event
import RoleLookup.Log.Pattern
import RoleLookup.Text.Alphanumeric
import RoleLookup.Text.Blank

/-!
# Log directives

A directive says how verbose the log is for some of the events: those of a target, or those within
a span of some name and with some fields.

* `Verbosity`, how much is let through;
* `FieldDemand`, `Directive`, what a directive asks of spans and events;
* `Directive.parse`, the directive that a text writes down;
* `directives`, all directives of a text.
-/

namespace RoleLookup.Log

/-- The number of the most verbose level that is let through; nothing is at zero. -/
abbrev Verbosity := Nat

namespace Verbosity

/-- All levels. -/
def everything : Verbosity := Level.trace.verbosity

/-- The names of verbosities. -/
def names : List (String × Verbosity) :=
  [("off", 0), ("error", 1), ("warn", 2), ("info", 3), ("debug", 4), ("trace", 5)]

/-- The verbosity of a number, which may have a plus sign in front. -/
def ofDigits? (cs : List Char) : Option Verbosity :=
  let digits :=
    match cs with
    | '+' :: rest => rest
    | _ => cs
  if digits.isEmpty || !digits.all Char.isDigit then none
  else
    let n := Text.decimal digits
    if n ≤ everything then some n else none

/-- The verbosity of a name, whatever its case, or a number. -/
def ofText? (s : String) : Option Verbosity :=
  (ofDigits? s.toList).or ((names.find? (·.1 == s.toLower)).map (·.2))

end Verbosity

/-! ### Fields -/

/-- What is asked of the value of a field. -/
inductive ValueTest
  | number (n : Nat)
  /-- The whole text of the value is one of the pattern. -/
  | pattern (p : Pattern)
  /-- A truth value or another number, which no field has. -/
  | never
  deriving DecidableEq, Repr

namespace ValueTest

/-- Whether a value passes. -/
def accepts : ValueTest → Value → Bool
  | number n, .number m => n == m
  | pattern p, .text s | pattern p, .shown s => p.accepts s
  | _, _ => false

/-- Whether a text is a number with a sign, a point or an exponent, or the name of one. -/
def isOtherNumber (s : String) : Bool :=
  let unsigned (cs : List Char) : List Char :=
    match cs with
    | '-' :: rest | '+' :: rest => rest
    | _ => cs
  let cs := unsigned (s.toList.map Char.toLower)
  let whole := cs.takeWhile Char.isDigit
  let rest := cs.drop whole.length
  let (fraction, rest) :=
    match rest with
    | '.' :: rest => (rest.takeWhile Char.isDigit, rest.dropWhile Char.isDigit)
    | _ => ([], rest)
  let exponentOk :=
    match rest with
    | [] => true
    | 'e' :: rest =>
      let digits := unsigned rest
      !digits.isEmpty && digits.all Char.isDigit
    | _ => false
  ["inf", "infinity", "nan"].contains (String.ofList cs) ||
    ((!whole.isEmpty || !fraction.isEmpty) && exponentOk)

/-- The test that a text writes down. -/
def parse? (s : String) : Option ValueTest :=
  if s == "true" || s == "false" then some never
  else
    let digits :=
      match s.toList with
      | '+' :: rest => rest
      | cs => cs
    if !digits.isEmpty && digits.all Char.isDigit then some (number (Text.decimal digits))
    else if isOtherNumber s then some never
    else (Pattern.parse? s).map pattern

end ValueTest

/-- A field that a span has, perhaps with a value that passes a test. -/
structure FieldDemand where
  name : String
  value : Option ValueTest
  deriving DecidableEq, Repr

/-! ### Directives -/

/-- How verbose the log is, and for what. -/
structure Directive where
  /-- What the target starts with. -/
  target : Option String := none
  /-- The name of a span. -/
  span : Option String := none
  /-- Fields of a span. -/
  fields : List FieldDemand := []
  verbosity : Verbosity := Verbosity.everything
  deriving DecidableEq, Repr

namespace Directive

/-- Why a text is not a directive. -/
inductive Error
  | malformed
  | unknownLevel
  | unusableValue
  deriving DecidableEq, Repr

/-- Wording of an error. -/
def Error.message : Error → String
  | .malformed => "invalid filter directive"
  | .unknownLevel =>
    "error parsing level filter: expected one of \"off\", \"error\", \"warn\", \"info\", " ++
      "\"debug\", \"trace\", or a number 0-5"
  | .unusableValue => "invalid field filter"

/-- What is being read. Parts that go on know where they start. -/
inductive Reading
  | start
  | targetOrLevel (start : Nat)
  | span (start : Nat)
  | field (start : Nat)
  /-- After the fields. -/
  | fields
  /-- After the target and the span. -/
  | selected
  | level (start : Nat)
  deriving DecidableEq, Repr

/-- The characters of a text from one place up to another. -/
def slice (cs : List Char) (start stop : Nat) : String :=
  String.ofList ((cs.take stop).drop start)

/-- The demand on a field that a text writes down: a name, perhaps an equals sign and a value.
What comes after a second equals sign does not count. -/
def fieldDemand (s : String) : Except Error FieldDemand :=
  if s.isEmpty then .error .malformed
  else
    match s.splitOn "=" with
    | name :: value :: _ =>
      match ValueTest.parse? value with
      | some test => .ok ⟨name, some test⟩
      | none => .error .unusableValue
    | _ => .ok ⟨s, none⟩

/-- The directive with one more field. -/
def withField (d : Directive) (s : String) : Except Error Directive := do
  let demand ← fieldDemand s
  return { d with fields := d.fields ++ [demand] }

/-- The directive with the verbosity that a text names, or with all if it names none. -/
def withVerbosity (d : Directive) (s : String) : Except Error Directive :=
  if s.isEmpty then .ok { d with verbosity := .everything }
  else
    match Verbosity.ofText? s with
    | some verbosity => .ok { d with verbosity }
    | none => .error .unknownLevel

/-- Whether a directive can start with a character. -/
def canStart (c : Char) : Bool := c == '-' || c == ':' || c == '_' || Text.isAlphanumeric c

/-- One more character at a place. -/
def next (cs : List Char) (place : Nat) (c : Char) (r : Reading) (d : Directive) :
    Except Error (Reading × Directive) :=
  match r with
  | .start =>
    if c = '[' then .ok (.span (place + 1), d)
    else if canStart c then .ok (.targetOrLevel place, d)
    else .error .malformed
  | .targetOrLevel start =>
    if c = '=' then .ok (.level (place + 1), { d with target := some (slice cs start place) })
    else if c = '[' then .ok (.span (place + 1), { d with target := some (slice cs start place) })
    else .ok (r, d)
  | .span start =>
    if c = ']' then .ok (.selected, { d with span := some (slice cs start place) })
    else if c = '\x7b' then
      let name := slice cs start place
      .ok (.field (place + 1), { d with span := if name.isEmpty then none else some name })
    else .ok (r, d)
  | .field start =>
    if c = '\x7d' then (d.withField (slice cs start place)).map fun d => (.fields, d)
    else if c = ',' then (d.withField (slice cs start place)).map fun d => (.field (place + 1), d)
    else .ok (r, d)
  | .fields => if c = ']' then .ok (.selected, d) else .error .malformed
  | .selected => if c = '=' then .ok (.level (place + 1), d) else .error .malformed
  | .level _ => .ok (r, d)

/-- The end of the text. A text that is no level is a target. -/
def finish (cs : List Char) (r : Reading) (d : Directive) : Except Error Directive :=
  match r with
  | .targetOrLevel start =>
    let s := slice cs start cs.length
    match Verbosity.ofText? s with
    | some verbosity => .ok { d with verbosity }
    | none => .ok { d with target := some s }
  | .level start => d.withVerbosity (slice cs start cs.length)
  | .selected => .ok d
  | _ => .error .malformed

/-- Reads characters from a place on. Places are counted from the first character that is not
blank, but parts are cut out of the whole text. -/
def read (cs : List Char) (place : Nat) (r : Reading) (d : Directive) :
    List Char → Except Error Directive
  | [] => finish cs r d
  | c :: rest =>
    match next cs place c r d with
    | .error e => .error e
    | .ok (r, d) => read cs (place + 1) r d rest

/-- The directive that a text writes down. -/
def parse (s : String) : Except Error Directive :=
  read s.toList 0 .start {} (Text.trimBlanks s.toList)

end Directive

/-- The directives of a text, separated by commas. Empty ones do not count. -/
def directives (s : String) : Except Directive.Error (List Directive) :=
  ((s.splitOn ",").filter (!·.isEmpty)).mapM Directive.parse

end RoleLookup.Log
