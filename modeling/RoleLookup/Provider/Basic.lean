import RoleLookup.Cache
import RoleLookup.Text.Quoted

/-!
# The resilient provider

A lookup reads the primary region of the cache. On a miss the directory is called; roles it gives
are written to the cache, and when it fails the last known roles serve instead. With coalescing,
lookups that miss while a call for their user is in flight share that call.

The provider is a machine whose steps are the moments between which other lookups can act.

* `Outcome`, how a directory call or a lookup ends;
* `Call`, `Lookup`, a directory call and a lookup, and how far each is;
* `Provider`, the cache, the calls in flight, all calls and lookups so far;
* `Step`, `step`, `run`, the machine: a step that does not apply changes nothing;
* `lookup`, `lookupTogether`, lookups when nobody else acts.

A write or an invalidation touches one region after the other. The steps `receive`, `store`,
`erase` and `clear` touch one region each; `resume`, `put`, `invalidate` and `invalidateAll` go
through both with nothing in between. In the same way a shared call ends in two steps, `answer` and
`withdraw`, or in one, `finish`.

A call that crashes takes its lookup with it. A shared call that crashes ends as a failure for all
who wait, and stays in flight.
-/

namespace RoleLookup

/-- How a directory call or a lookup ends. -/
inductive Outcome
  | roles (roles : RoleSet)
  | failed (error : LookupError)
  | crashed (message : String)
  deriving DecidableEq, Repr

/-- Whether an outcome is a crash. -/
def Outcome.isCrash : Outcome → Bool
  | .crashed _ => true
  | _ => false

namespace Provider

/-- How far a directory call is. -/
inductive CallState
  | running
  /-- The directory has answered, but the call is still in flight for those who look. -/
  | answered (outcome : Outcome)
  | ended (outcome : Outcome)
  /-- The only lookup that waited for it was abandoned. -/
  | dropped
  deriving DecidableEq, Repr

/-- A directory call. -/
structure Call where
  user : String
  state : CallState
  deriving DecidableEq, Repr

/-- How far a lookup is. -/
inductive Phase
  | started
  | missed
  | waiting (call : Nat)
  /-- It has written the roles of its call into the primary region, but not yet into the other. -/
  | storing (call : Nat) (entry : Entry)
  | finished (outcome : Outcome)
  | abandoned
  deriving DecidableEq, Repr

/-- A lookup. -/
structure Lookup where
  user : String
  phase : Phase
  deriving DecidableEq, Repr

end Provider

/-- The state of the provider. Calls and lookups are numbered in the order in which they
started. -/
structure Provider where
  /-- Whether lookups share the calls in flight. -/
  coalescing : Bool
  cache : Cache
  now : Nat := 0
  inFlight : List (String × Nat) := []
  calls : List Provider.Call := []
  lookups : List Provider.Lookup := []
  /-- The activities that lookups are part of, outermost first. -/
  activities : List Log.Span := []
  log : List Log.Event := []
  deriving Repr

namespace Provider

/-- A provider that has done nothing yet. -/
def ofCache (coalescing : Bool) (cache : Cache) : Provider := { coalescing, cache }

/-- One moment of a run. -/
inductive Step
  /-- A lookup starts. -/
  | start (user : String)
  /-- A lookup reads the primary region. -/
  | check (lookup : Nat)
  /-- A lookup that missed joins the call in flight for its user or starts one. -/
  | ask (lookup : Nat)
  /-- The directory answers a call. -/
  | answer (call : Nat) (outcome : Outcome)
  /-- A shared call that has its answer leaves the calls in flight, and all who wait see it. -/
  | withdraw (call : Nat)
  /-- A directory call ends, with nothing between its answer and its end. -/
  | finish (call : Nat) (outcome : Outcome)
  /-- A lookup takes the outcome of its call. Roles go into the primary region. -/
  | receive (lookup : Nat)
  /-- A lookup writes into the fallback region what it has written into the primary one. -/
  | store (lookup : Nat)
  /-- A lookup takes the outcome of its call. Roles go into both regions. -/
  | resume (lookup : Nat)
  /-- The caller of a lookup gives up. -/
  | abandon (lookup : Nat)
  | put (user : String) (roles : RoleSet)
  /-- An invalidation of a user reaches one region. -/
  | erase (tier : Tier) (user : String)
  /-- An invalidation of all users reaches one region. -/
  | clear (tier : Tier)
  | invalidate (user : String)
  | invalidateAll
  /-- Time passes for the cache. -/
  | advance (millis : Nat)
  deriving Repr

/-! ### What is logged -/

/-- The span of a lookup. -/
def lookupSpan (user : String) : Log.Span :=
  ⟨.info, "tiny_roles_business::resilient", "get_user_roles", [⟨"user", .text user⟩]⟩

/-- An event of a lookup. -/
def event (level : Log.Level) (message : String) (fields : List Log.Field) : Log.Event :=
  ⟨level, "tiny_roles_business::resilient", some message, fields, []⟩

/-- The activities that the lookup of a user is part of, with its own. -/
def spansOf (p : Provider) (user : String) : List Log.Span := p.activities ++ [lookupSpan user]

/-- The provider with events of the lookup of a user added to its log. -/
def note (p : Provider) (user : String) (events : List Log.Event) : Provider :=
  { p with log := p.log ++ events.map (·.withinAll (p.spansOf user)) }

/-! ### Steps -/

/-- The provider with a lookup in another phase. -/
def setPhase (p : Provider) (l : Nat) (phase : Phase) : Provider :=
  { p with lookups := p.lookups.modify l fun k => { k with phase } }

/-- The provider with a call in another state. -/
def setCall (p : Provider) (c : Nat) (state : CallState) : Provider :=
  { p with calls := p.calls.modify c fun k => { k with state } }

/-- How far a call is. -/
def callState? (p : Provider) (c : Nat) : Option CallState :=
  (p.calls[c]?).map (·.state)

/-- The call in flight for a user. -/
def inFlight? (p : Provider) (user : String) : Option Nat :=
  (p.inFlight.find? (·.1 == user)).map (·.2)

/-- The call that a lookup of a user joins after a miss. -/
def joined? (p : Provider) (user : String) : Option Nat :=
  if p.coalescing then p.inFlight? user else none

/-- A lookup reads the primary region. -/
def check (p : Provider) (l : Nat) : Provider :=
  match p.lookups[l]? with
  | some ⟨user, .started⟩ =>
    match p.cache.get? p.now user with
    | some roles =>
      (p.note user [event .debug "cache hit" []]).setPhase l (.finished (.roles roles))
    | none => (p.note user [event .debug "cache miss" []]).setPhase l .missed
  | _ => p

/-- A lookup that missed joins the call in flight for its user or starts one. -/
def ask (p : Provider) (l : Nat) : Provider :=
  match p.lookups[l]? with
  | some ⟨user, .missed⟩ =>
    match p.joined? user with
    | some c => p.setPhase l (.waiting c)
    | none =>
      let c := p.calls.length
      { p with
        calls := p.calls ++ [{ user, state := .running : Call }]
        inFlight := if p.coalescing then (user, c) :: p.inFlight else p.inFlight }.setPhase l
          (.waiting c)
  | _ => p

/-- Wording of the crash of a shared call. -/
def crashMessage (call : Nat) (message : String) : String :=
  "task " ++ toString call ++ " panicked with message " ++ Text.quoted message

/-- What the lookups that share a call see of its outcome. -/
def reported (call : Nat) : Outcome → Outcome
  | .crashed message => .failed (.unavailableBecause (crashMessage call message))
  | outcome => outcome

/-- The directory answers a call. A shared call that crashed is over, but stays in flight. -/
def answer (p : Provider) (c : Nat) (outcome : Outcome) : Provider :=
  match p.calls[c]? with
  | some ⟨_, .running⟩ =>
    if p.coalescing then
      p.setCall c (if outcome.isCrash then .ended (reported c outcome) else .answered outcome)
    else p.setCall c (.ended outcome)
  | _ => p

/-- A shared call that has its answer leaves the calls in flight. -/
def withdraw (p : Provider) (c : Nat) : Provider :=
  match p.calls[c]? with
  | some ⟨user, .answered outcome⟩ =>
    { p.setCall c (.ended outcome) with inFlight := p.inFlight.filter (·.1 != user) }
  | _ => p

/-- A failed lookup serves the last known roles, or reports the failure. -/
def serveFallback (p : Provider) (l : Nat) (user : String) (e : LookupError) : Provider :=
  let cause : List Log.Field := [⟨"e", .shown e.message⟩]
  match p.cache.getFromFallback? p.now user with
  | some roles =>
    (p.note user (p.cache.fallbackEvents p.now user ++
      [event .warn "directory lookup failed, serving fallback roles" cause])).setPhase l
        (.finished (.roles roles))
  | none =>
    (p.note user [event .warn "directory lookup failed without fallback" cause]).setPhase l
      (.finished (.failed e))

/-- A lookup goes on with the outcome of its call. -/
def take (p : Provider) (l : Nat) (user : String) (c : Nat) : Outcome → Provider
  | .roles roles =>
    let e : Entry := ⟨user, roles, p.now⟩
    let p := p.note user [Cache.putEvent user]
    { p with cache := p.cache.insert .primary e }.setPhase l (.storing c e)
  | .failed e => p.serveFallback l user e
  | .crashed message => p.setPhase l (.finished (.crashed message))

/-- A lookup takes the outcome of its call. -/
def receive (p : Provider) (l : Nat) : Provider :=
  match p.lookups[l]? with
  | some ⟨user, .waiting c⟩ =>
    match p.callState? c with
    | some (.ended outcome) => p.take l user c outcome
    | _ => p
  | _ => p

/-- A lookup that has written one region writes the other, and is over. -/
def store (p : Provider) (l : Nat) : Provider :=
  match p.lookups[l]? with
  | some ⟨_, .storing _ e⟩ =>
    { p with cache := p.cache.insert .fallback e }.setPhase l (.finished (.roles e.roles))
  | _ => p

/-- The caller of a lookup gives up. A call that is not shared ends with it. -/
def abandon (p : Provider) (l : Nat) : Provider :=
  match p.lookups[l]? with
  | some ⟨_, .started⟩ | some ⟨_, .missed⟩ => p.setPhase l .abandoned
  | some ⟨_, .waiting c⟩ =>
    let p := p.setPhase l .abandoned
    if p.coalescing then p
    else
      match p.callState? c with
      | some .running => p.setCall c .dropped
      | _ => p
  | _ => p

/-- One step of the machine. -/
def step (p : Provider) : Step → Provider
  | .start user => { p with lookups := p.lookups ++ [⟨user, .started⟩] }
  | .check l => p.check l
  | .ask l => p.ask l
  | .answer c outcome => p.answer c outcome
  | .withdraw c => p.withdraw c
  | .finish c outcome => (p.answer c outcome).withdraw c
  | .receive l => p.receive l
  | .store l => p.store l
  | .resume l => (p.receive l).store l
  | .abandon l => p.abandon l
  | .put user roles =>
    { p with cache := p.cache.put p.now user roles, log := p.log ++ [Cache.putEvent user] }
  | .erase t user => { p with cache := p.cache.erase t user }
  | .clear t => { p with cache := p.cache.clear t }
  | .invalidate user => { p with cache := p.cache.invalidate user }
  | .invalidateAll => { p with cache := p.cache.invalidateAll }
  | .advance millis => { p with now := p.now + millis }

/-- Steps in a row. -/
def run (p : Provider) (steps : List Step) : Provider := steps.foldl step p

@[simp] theorem run_nil (p : Provider) : p.run [] = p := rfl

@[simp] theorem run_cons (p : Provider) (s : Step) (ss : List Step) :
    p.run (s :: ss) = (p.step s).run ss := rfl

theorem run_append (p : Provider) (ss ts : List Step) :
    p.run (ss ++ ts) = (p.run ss).run ts := List.foldl_append

/-! ### Views -/

/-- How a lookup ended, if it did. -/
def outcome? (p : Provider) (l : Nat) : Option Outcome :=
  match p.lookups[l]? with
  | some ⟨_, .finished o⟩ => some o
  | _ => none

/-- The call that a lookup waits for. -/
def awaited? (p : Provider) (l : Nat) : Option Nat :=
  match p.lookups[l]? with
  | some ⟨_, .waiting c⟩ => some c
  | _ => none

/-- Whether a call still runs. -/
def isRunning (p : Provider) (c : Nat) : Bool :=
  p.callState? c == some .running

/-- The lookups that wait for a call, in the order in which they started. -/
def waitersOf (p : Provider) (c : Nat) : List Nat :=
  (List.range p.lookups.length).filter fun l => p.awaited? l == some c

/-! ### Lookups when nobody else acts -/

/-- What comes back from a directory call: what it logged, how many milliseconds it took, and how
it ended. -/
structure Reply where
  events : List Log.Event := []
  elapsed : Nat := 0
  outcome : Outcome
  deriving Repr

/-- Asks a directory for the roles of a user. The state of the directory changes with it. -/
abbrev Directory (δ : Type) := String → δ → δ × Reply

variable {δ : Type}

/-- A call that runs goes on to its end. A call that is not shared is part of its lookup. -/
def complete (directory : Directory δ) (c : Nat) (p : Provider) (d : δ) : Provider × δ :=
  match p.calls[c]? with
  | some ⟨user, .running⟩ =>
    let (d, r) := directory user d
    let events := if p.coalescing then r.events else r.events.map (·.withinAll (p.spansOf user))
    ({ p with log := p.log ++ events }.run [.advance r.elapsed, .finish c r.outcome], d)
  | _ => (p, d)

/-- A lookup reads the cache and asks for the directory. -/
def launch (p : Provider) (user : String) : Provider :=
  let l := p.lookups.length
  p.run [.start user, .check l, .ask l]

/-- One lookup from start to end. -/
def lookup (directory : Directory δ) (user : String) (p : Provider) (d : δ) :
    Provider × δ × Option Outcome :=
  let l := p.lookups.length
  let p := p.launch user
  match p.awaited? l with
  | none => (p, d, p.outcome? l)
  | some c =>
    let (p, d) := p.complete directory c d
    let p := p.step (.resume l)
    (p, d, p.outcome? l)

/-- Lookups one after another. -/
def lookupInTurn (directory : Directory δ) : List String → Provider → δ →
    Provider × δ × List (Option Outcome)
  | [], p, d => (p, d, [])
  | user :: users, p, d =>
    let (p, d, outcome) := p.lookup directory user d
    let (p, d, outcomes) := lookupInTurn directory users p d
    (p, d, outcome :: outcomes)

/-- Calls one after another. -/
def completeInTurn (directory : Directory δ) : List Nat → Provider → δ → Provider × δ
  | [], p, d => (p, d)
  | c :: cs, p, d =>
    let (p, d) := p.complete directory c d
    completeInTurn directory cs p d

/-- Lookups that start together. If they share calls, all of them read the cache before the first
call, and all calls end before the first of them goes on. -/
def lookupTogether (directory : Directory δ) (users : List String) (p : Provider) (d : δ) :
    Provider × δ × List (Option Outcome) :=
  if p.coalescing then
    let lookups := (List.range users.length).map (p.lookups.length + ·)
    let known := p.calls.length
    let p := users.foldl launch p
    let calls := (List.range (p.calls.length - known)).map (known + ·)
    let (p, d) := p.completeInTurn directory calls d
    let p := p.run (lookups.map .resume)
    (p, d, lookups.map p.outcome?)
  else p.lookupInTurn directory users d

end Provider

end RoleLookup
