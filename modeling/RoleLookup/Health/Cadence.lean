/-!
# Cadences

A reporter runs a check and publishes its statement again and again, on a fixed cadence. Times are
in milliseconds since it started.

* `Cadence.next`, the tick after one that came at a given time;
* `Reporter`, the state of a reporter before a check;
* `Reporter.round`, one check and its publication;
* `Reporter.rounds`, all rounds that start before a given time.

A tick that comes late by more than the tolerance has missed the ticks before it; they are not made
up for.
-/

namespace RoleLookup.Health

namespace Cadence

/-- Shortest period. -/
def shortest : Nat := 1

/-- The period that a reporter keeps when it is asked for one. -/
def effective (period : Nat) : Nat := max period shortest

/-- How late a tick may come and still count as in time. -/
def tolerance : Nat := 5

/-- The tick after the one that was due at `deadline` and came at `now`. -/
def next (period deadline now : Nat) : Nat :=
  if deadline + tolerance < now then now + period - (now - deadline) % period
  else deadline + period

end Cadence

/-- One check and its publication. -/
structure Round where
  number : Nat
  start : Nat
  publish : Nat
  finish : Nat
  deriving DecidableEq, Repr

/-- A reporter before a check: how many rounds it has made, the time, and when its next tick is
due. -/
structure Reporter where
  period : Nat
  number : Nat := 0
  now : Nat := 0
  deadline : Nat := 0
  deriving DecidableEq, Repr

namespace Reporter

/-- A reporter that starts. -/
def ofPeriod (period : Nat) : Reporter := { period := Cadence.effective period }

/-- When the next check starts. -/
def start (r : Reporter) : Nat := max r.now r.deadline

/-- The next check and its publication, which take some time each. -/
def round (r : Reporter) (check sink : Nat → Nat) : Round :=
  let publish := r.start + check r.number
  ⟨r.number, r.start, publish, publish + sink r.number⟩

/-- The reporter after a round. -/
def after (r : Reporter) (round : Round) : Reporter :=
  { r with
    number := r.number + 1
    now := round.finish
    deadline := Cadence.next r.period r.deadline round.start }

/-- Whether the next tick is due. -/
def isDue (r : Reporter) (now : Nat) : Bool := r.deadline ≤ now

/-- The reporter after a round that starts and ends at one time. -/
def tick (r : Reporter) (now : Nat) : Reporter := r.after ⟨r.number, now, now, now⟩

/-- The rounds that start before a time, at most as many as the fuel says. -/
def roundsBefore (r : Reporter) (check sink : Nat → Nat) (limit : Nat) : Nat → List Round
  | 0 => []
  | fuel + 1 =>
    if limit ≤ r.start then []
    else
      let round := r.round check sink
      round :: (r.after round).roundsBefore check sink limit fuel

/-- The rounds that start before a time. There is at most one for each millisecond. -/
def rounds (r : Reporter) (check sink : Nat → Nat) (limit : Nat) : List Round :=
  r.roundsBefore check sink limit limit

end Reporter

end RoleLookup.Health
