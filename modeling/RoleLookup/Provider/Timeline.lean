import RoleLookup.Provider.Basic

/-!
# Timed runs of the provider

A run in which directory calls take time and callers lose patience.

* `Answer`, what a directory call gives and how long it takes;
* `Event`, something that happens at a given time of a timeline;
* `Timeline`, a provider with a clock and an agenda of what is still to come;
* `Timeline.play`, all events of a timeline, until each of them has a result.

Of two entries of the agenda that are due at the same time, the one written first goes first. The
clock of a timeline does not age the cache.
-/

namespace RoleLookup

open Provider (Step)

/-- What a directory call gives. A call without a delay ends where it started. -/
structure Answer where
  delay : Option Nat
  outcome : Outcome
  deriving DecidableEq, Repr

/-- The successive answers for each user. The last one repeats, and a user without answers cannot
be looked up. -/
abbrev Script := List (String × List Answer)

/-- The answer to the call of the given number, among the calls for a user. -/
def Script.answer (s : Script) (user : String) (number : Nat) : Answer :=
  let answers := ((s.find? (·.1 == user)).map (·.2)).getD []
  ((answers[number]?).or answers.getLast?).getD ⟨none, .failed .unavailable⟩

namespace Timeline

/-- Something that happens on a timeline. -/
inductive Event
  /-- A lookup, whose caller gives up after some time. -/
  | lookup (user : String) (patience : Option Nat)
  | put (user : String) (roles : RoleSet)
  | get (user : String)
  | fallback (user : String)
  | invalidate (user : String)
  | invalidateAll
  deriving Repr

/-- What came of an event. -/
inductive Result
  | done
  | roles (roles : Option RoleSet)
  | lookedUp (outcome : Outcome)
  | gaveUp
  deriving DecidableEq, Repr

/-- Something due. -/
inductive Action
  | event (number : Nat) (event : Event)
  | finish (call : Nat) (outcome : Outcome)
  | giveUp (lookup : Nat)
  deriving Repr

/-- Something due at a time. -/
structure Entry where
  time : Nat
  action : Action
  deriving Repr

/-- Whether an entry is an event. -/
def Entry.isEvent (e : Entry) : Bool :=
  match e.action with
  | .event .. => true
  | _ => false

/-- The result of an event, and when it came. -/
structure Report where
  event : Nat
  time : Nat
  result : Result
  deriving Repr

end Timeline

/-- A provider with a clock of its own. -/
structure Timeline where
  script : Script
  provider : Provider
  clock : Nat := 0
  /-- What is to come, in the order in which it was written down. -/
  agenda : List Timeline.Entry := []
  /-- Lookups that still go on, with their events. -/
  pending : List (Nat × Nat) := []
  reports : List Timeline.Report := []
  deriving Repr

namespace Timeline

/-- The timeline with an entry written at the end of its agenda. -/
def schedule (t : Timeline) (delay : Nat) (action : Action) : Timeline :=
  { t with agenda := t.agenda ++ [⟨t.clock + delay, action⟩] }

/-- The timeline with a step of the provider taken. -/
def take (t : Timeline) (step : Step) : Timeline := { t with provider := t.provider.step step }

/-- The timeline with the result of an event. -/
def report (t : Timeline) (event : Nat) (result : Result) : Timeline :=
  { t with reports := t.reports ++ [⟨event, t.clock, result⟩] }

/-- The timeline with the result of a lookup, if it belongs to an event. -/
def conclude (t : Timeline) (lookup : Nat) (result : Result) : Timeline :=
  match t.pending.find? (·.1 == lookup) with
  | some (_, event) =>
    { t with pending := t.pending.filter (·.1 != lookup) }.report event result
  | none => t

/-- The timeline with a lookup concluded if it is over. -/
def concludeIfOver (t : Timeline) (lookup : Nat) : Timeline :=
  match t.provider.outcome? lookup with
  | some outcome => t.conclude lookup (.lookedUp outcome)
  | none => t

/-- A call ends, and all who wait for it go on. -/
def finishCall (t : Timeline) (call : Nat) (outcome : Outcome) : Timeline :=
  let t := t.take (.finish call outcome)
  (t.provider.waitersOf call).foldl
    (fun t lookup => (t.take (.resume lookup)).concludeIfOver lookup) t

/-- The answer to a call: the number of its answer is that of earlier calls for its user. -/
def answerOf (t : Timeline) (call : Nat) (user : String) : Answer :=
  t.script.answer user (((t.provider.calls.take call).filter (·.user == user)).length)

/-- A lookup starts. -/
def startLookup (t : Timeline) (event : Nat) (user : String) (patience : Option Nat) : Timeline :=
  let l := t.provider.lookups.length
  let known := t.provider.calls.length
  let t := { t with provider := t.provider.run [.start user, .check l, .ask l],
                    pending := t.pending ++ [(l, event)] }
  let giveUp (t : Timeline) : Timeline :=
    match patience with
    | some patience => t.schedule patience (.giveUp l)
    | none => t
  match t.provider.awaited? l with
  | none => t.concludeIfOver l
  | some call =>
    if call < known then
      if t.provider.isRunning call then giveUp t
      else (t.take (.resume l)).concludeIfOver l
    else
      match t.provider.coalescing, t.answerOf call user with
      | false, ⟨none, outcome⟩ => t.finishCall call outcome
      | false, ⟨some delay, outcome⟩ => giveUp (t.schedule delay (.finish call outcome))
      | true, ⟨delay, outcome⟩ => (giveUp t).schedule (delay.getD 0) (.finish call outcome)

/-- Something due happens. -/
def act (t : Timeline) : Action → Timeline
  | .event n (.lookup user patience) => t.startLookup n user patience
  | .event n (.put user roles) => (t.take (.put user roles)).report n .done
  | .event n (.get user) => t.report n (.roles (t.provider.cache.get? t.provider.now user))
  | .event n (.fallback user) =>
    let p := t.provider
    { t with provider := { p with log := p.log ++ p.cache.fallbackEvents p.now user } }.report n
      (.roles (p.cache.getFromFallback? p.now user))
  | .event n (.invalidate user) => (t.take (.invalidate user)).report n .done
  | .event n .invalidateAll => (t.take .invalidateAll).report n .done
  | .finish call outcome => t.finishCall call outcome
  | .giveUp l =>
    if t.pending.any (·.1 == l) then (t.take (.abandon l)).conclude l .gaveUp else t

/-- The first of the entries that are due earliest, and the others. -/
def next? : List Entry → Option (Entry × List Entry)
  | [] => none
  | e :: rest =>
    match next? rest with
    | some (first, others) =>
      if first.time < e.time then some (first, e :: others) else some (e, rest)
    | none => some (e, [])

/-- Whether every event has its result. -/
def isSettled (t : Timeline) : Bool := t.pending.isEmpty && !t.agenda.any Entry.isEvent

/-- What is due happens until every event has its result, at most as many times as the fuel says.
-/
def settle : Nat → Timeline → Timeline
  | 0, t => t
  | fuel + 1, t =>
    if t.isSettled then t
    else
      match next? t.agenda with
      | none => t
      | some (e, agenda) =>
        settle fuel ({ t with agenda, clock := max t.clock e.time }.act e.action)

/-- The events of a timeline happen, each at its time from now. An event brings at most two more
entries to the agenda. The reports say when each event had its result, counted from now. -/
def play (t : Timeline) (events : List (Nat × Event)) : Timeline :=
  let start := t.clock
  let entries := events.zipIdx.map fun ((delay, event), n) => ⟨start + delay, .event n event⟩
  let t := { t with agenda := t.agenda ++ entries, reports := [] }
  let t := settle (t.agenda.length + 2 * events.length + 1) t
  { t with reports := t.reports.map fun r => { r with time := r.time - start } }

/-- The report on an event. -/
def report? (t : Timeline) (event : Nat) : Option Report :=
  t.reports.find? (·.event == event)

end Timeline

end RoleLookup
