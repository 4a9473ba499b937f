import RoleLookup.Json.Basic
import RoleLookup.Log.Event

/-!
# Health

A health check looks at one part of the program and says whether it works.

* `Health.Record`, the outcome of a check;
* `Health.Check`, a named check on a state that it may change;
* `Health.Statement`, a record with the name of its check, as a JSON value;
* `Health.executeAll`, all checks in order.
-/

namespace RoleLookup.Health

/-- The outcome of a check. -/
structure Record where
  healthy : Bool
  details : Json.Value
  deriving Repr, Inhabited

/-- The members of a record. -/
def Record.members (r : Record) : List (String × Json.Value) :=
  [("healthy", .bool r.healthy), ("details", r.details.sorted)]

/-- The outcome of a named check. -/
structure Statement where
  name : String
  record : Record
  deriving Repr, Inhabited

/-- A statement as a JSON value. -/
def Statement.toJson (s : Statement) : Json.Value :=
  .object (("name", .text s.name) :: s.record.members)

/-- Statements as a JSON value. -/
def reportOf (ss : List Statement) : Json.Value := .array (ss.map Statement.toJson)

/-- Whether all statements are good news. -/
def allHealthy (ss : List Statement) : Bool := ss.all (·.record.healthy)

/-- An event that tells a statement. -/
def Statement.event (s : Statement) : Log.Event :=
  let level := if s.record.healthy then .info else .warn
  let message := if s.record.healthy then "healthy" else "unhealthy"
  ⟨level, "tiny_roles_business::health", some message,
    [⟨"name", .shown s.name⟩, ⟨"details", .shown s.record.details.sorted.compact⟩], []⟩

/-- A check. Running it may change the state that it looks at, and may be logged. -/
structure Check (σ : Type) where
  name : String
  command : σ → σ × List Log.Event × Record

namespace Check

variable {σ : Type}

/-- The span of a check. -/
def span (c : Check σ) : Log.Span :=
  ⟨.info, "tiny_roles_business::health", "execute", [⟨"name", .text c.name⟩]⟩

/-- A check is run. -/
def execute (c : Check σ) (s : σ) : σ × List Log.Event × Statement :=
  let (s, events, record) := c.command s
  (s, events.map (·.within c.span), ⟨c.name, record⟩)

end Check

/-- All checks are run in order. -/
def executeAll {σ : Type} : List (Check σ) → σ → σ × List Log.Event × List Statement
  | [], s => (s, [], [])
  | c :: cs, s =>
    let (s, events, statement) := c.execute s
    let (s, more, statements) := executeAll cs s
    (s, events ++ more, statement :: statements)

end RoleLookup.Health
