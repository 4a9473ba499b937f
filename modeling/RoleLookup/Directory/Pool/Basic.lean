import RoleLookup.Directory.Filter
import RoleLookup.Directory.TrustStore

/-!
# The connection pool

A pool lends bound connections to one directory, to at most as many borrowers at a time as it has
permits. The first acquire that reaches a new pool opens it: if the first connection cannot be
opened nothing is kept and the next acquire tries again, and if a later one cannot, the pool makes
do with those it has. A borrower takes the connection that came back last, unless it is closed or
too old, and opens one if there is none.

The pool is a machine whose steps are the moments between which other borrowers can act.

* `Connection`, `Request`, a connection and what is sent over it;
* `Acquire`, a borrower, and `Phase`, how far it is;
* `Pool`, the permits, all connections and acquires so far, and what was sent;
* `Step`, `step`, `run`, the machine: a step that does not apply changes nothing.

Times are in milliseconds of one clock.
-/

namespace RoleLookup.Directory

open Log

/-! ### What is bound and searched -/

/-- How the directory answers a bind, if not with success. -/
def bindError? (bindDn : String) : Except RequestError Result → Option Error
  | .error cause => some (.bind cause)
  | .ok r =>
    if r.code = 0 then none
    else if r.code = 49 then some (.invalidCredentials bindDn)
    else some (.bindRefused r.code r.text)

/-- Logged when a bind is answered, but not with success. -/
def bindEvents (bindDn : String) : Except RequestError Result → List Event
  | .error _ => []
  | .ok r =>
    if r.code = 0 then []
    else if r.code = 49 then
      [connectEvent .warn "wrong bind dn or password" [⟨"bind_dn", .shown bindDn⟩]]
    else
      [connectEvent .warn "unexpected ldap result code while binding"
        [⟨"rc", .number r.code⟩, ⟨"text", .shown r.text⟩]]

/-- A search below a base for one attribute of the entries. -/
structure Query where
  base : String
  filter : Filter
  wanted : String
  deriving Repr

namespace Pool

/-- What has become of a connection. -/
inductive Fate
  | alive
  /-- It was closed from the other side. -/
  | closed
  /-- It was unbound. -/
  | unbound
  /-- Whoever opened it was abandoned. -/
  | dropped
  deriving DecidableEq, Repr

/-- A connection, and since when it is ready for use. -/
structure Connection where
  readySince : Nat
  fate : Fate := .alive
  deriving DecidableEq, Repr

/-- What is sent over a connection. -/
inductive Request
  | bind (connection : Nat) (bindDn password : String)
  | search (connection : Nat) (query : Query)
  | unbind (connection : Nat)
  deriving Repr

/-- What a connection is opened for. -/
inductive Purpose
  /-- To open the pool. These are the connections opened so far, the last one first. -/
  | initial (ready : List Nat)
  /-- To be lent. -/
  | loan
  deriving DecidableEq, Repr

/-- The connections that are ready so far. -/
def Purpose.ready : Purpose → List Nat
  | .initial cs => cs
  | .loan => []

/-- How far the opening of a connection is. -/
inductive Stage
  | connecting
  | binding (connection : Nat)
  /-- The bind failed, and the connection is on its way to be closed. -/
  | unbinding (connection : Nat) (error : Error)
  deriving DecidableEq, Repr

/-- How far an acquire is. -/
inductive Phase
  | started
  | opening (purpose : Purpose) (stage : Stage)
  /-- It waits for a permit. -/
  | queued
  /-- It has a permit and looks for a connection. -/
  | permitted
  | holding (connection : Nat)
  /-- Its connection is back and its permit not yet. -/
  | returned
  | released
  | failed (error : Error)
  | abandoned
  deriving DecidableEq, Repr

/-- A borrower. -/
structure Acquire where
  /-- The activities that it is part of, outermost first. -/
  spans : List Span
  phase : Phase := .started
  deriving DecidableEq, Repr

end Pool

/-- The state of a pool. Connections and acquires are numbered in the order in which they came. -/
structure Pool where
  connector : Connector
  size : Nat
  maxAge : Nat
  checkoutTimeout : Nat
  keepAlive : Bool
  now : Nat := 0
  isInitialised : Bool := false
  /-- The connections at rest, the last one that came first. -/
  idle : List Nat := []
  permits : Nat := 0
  connections : List Pool.Connection := []
  acquires : List Pool.Acquire := []
  sent : List Pool.Request := []
  log : List Event := []
  deriving Repr

namespace Pool

/-- A pool that has done nothing yet. -/
def ofSettings (s : Settings) (connector : Connector) : Pool :=
  { connector, size := max s.poolSize 1, maxAge := s.maxConnectionAge,
    checkoutTimeout := s.connectTimeout, keepAlive := s.keepAlive }

/-- One moment of a run. -/
inductive Step
  /-- An acquire starts, as part of some activities. -/
  | start (spans : List Span)
  /-- An acquire goes on to the permits, or opens the pool. -/
  | enter (acquire : Nat)
  /-- The network answers the opening of a connection. -/
  | connected (acquire : Nat) (answer : Except RequestError Unit)
  /-- The directory answers a bind, or does not. -/
  | bound (acquire : Nat) (answer : Except RequestError Result)
  /-- A connection whose bind failed has been unbound. -/
  | unbound (acquire : Nat)
  /-- An acquire gets a permit. -/
  | grant (acquire : Nat)
  /-- An acquire has waited too long for a permit. -/
  | expire (acquire : Nat)
  /-- An acquire looks at the connection at rest that came last. -/
  | take (acquire : Nat)
  /-- A borrower searches. -/
  | search (acquire : Nat) (query : Query)
  /-- A borrower gives its connection back. -/
  | giveBack (acquire : Nat)
  /-- A borrower gives its permit back. -/
  | free (acquire : Nat)
  /-- The caller of an acquire that is not over gives up. -/
  | abandon (acquire : Nat)
  /-- A connection is closed from the other side. -/
  | close (connection : Nat)
  | advance (millis : Nat)
  deriving Repr

/-! ### Parts of steps -/

/-- An event of this part. -/
def event (level : Level) (message : String) (fields : List Field) : Event :=
  ⟨level, "tiny_roles_ldap::pool", some message, fields, []⟩

/-- The field with the address of the directory. -/
def urlField (p : Pool) : Field := ⟨"url", .shown p.connector.url.text⟩

/-- How far an acquire is. -/
def phase? (p : Pool) (a : Nat) : Option Phase := (p.acquires[a]?).map (·.phase)

/-- The pool with an acquire in another phase. -/
def setPhase (p : Pool) (a : Nat) (phase : Phase) : Pool :=
  { p with acquires := p.acquires.modify a fun k => { k with phase } }

/-- The pool with events of an acquire in its log. -/
def note (p : Pool) (a : Nat) (events : List Event) : Pool :=
  let spans := ((p.acquires[a]?).map (·.spans)).getD []
  { p with log := p.log ++ events.map (·.withinAll spans) }

/-- What has become of a connection. -/
def fate? (p : Pool) (c : Nat) : Option Fate := (p.connections[c]?).map (·.fate)

/-- Whether a connection can be used. -/
def isAlive (p : Pool) (c : Nat) : Bool := p.fate? c == some .alive

/-- The pool after a connection that was alive has met a fate. -/
def setFate (p : Pool) (c : Nat) (fate : Fate) : Pool :=
  if p.isAlive c then
    { p with connections := p.connections.modify c fun k => { k with fate } }
  else p

/-- Whether a connection has been ready for as long as a connection may be. -/
def isExpired (p : Pool) (c : Nat) : Bool :=
  match p.connections[c]? with
  | some k => k.readySince + p.maxAge ≤ p.now
  | none => false

/-- The pool with a request sent. -/
def send (p : Pool) (r : Request) : Pool := { p with sent := p.sent ++ [r] }

/-- A connection is unbound, unless it is gone already. -/
def unbind (p : Pool) (c : Nat) : Pool :=
  if p.isAlive c then (p.send (.unbind c)).setFate c .unbound else p

/-- Whether an acquire opens the pool. -/
def Phase.isInitialising : Phase → Bool
  | .opening (.initial _) _ => true
  | _ => false

/-- Whether some acquire opens the pool. -/
def isInitialising (p : Pool) : Bool := p.acquires.any (·.phase.isInitialising)

/-! ### Opening connections -/

/-- An acquire starts to open a connection. -/
def connect (p : Pool) (a : Nat) (purpose : Purpose) : Pool :=
  (p.note a [connectEvent .debug "connecting" [p.urlField]]).setPhase a
    (.opening purpose .connecting)

/-- The pool has been opened with some connections. Sizes beyond what memory can hold are left out:
the list of that many connections could not be allocated. -/
def initialise (p : Pool) (a : Nat) (ready : List Nat) : Pool :=
  { p with isInitialised := true, idle := ready, permits := p.size }.setPhase a .queued

/-- An acquire has opened a connection. -/
def ready (p : Pool) (a : Nat) (purpose : Purpose) (c : Nat) : Pool :=
  let p := { p with
    connections := p.connections.modify c fun k => { k with readySince := p.now } }
  match purpose with
  | .loan => p.setPhase a (.holding c)
  | .initial cs =>
    if cs.length + 1 < p.size then p.connect a (.initial (c :: cs))
    else p.initialise a (c :: cs)

/-- The error of a pool that could not be opened. -/
def initialisationError (e : Error) : Error := if e.isBindFailure then .poolInitialisation e else e

/-- An acquire could not open a connection. -/
def openingFailed (p : Pool) (a : Nat) (purpose : Purpose) (e : Error) : Pool :=
  match purpose with
  | .loan => { p with permits := p.permits + 1 }.setPhase a (.failed e)
  | .initial [] => p.setPhase a (.failed (initialisationError e))
  | .initial cs =>
    (p.note a [event .warn "remaining connections are opened on demand"
      [⟨"e", .shown e.message⟩, ⟨"opened", .number cs.length⟩]]).initialise a cs

/-- The network answers the opening of a connection. -/
def connected (p : Pool) (a : Nat) (answer : Except RequestError Unit) : Pool :=
  match p.phase? a with
  | some (.opening purpose .connecting) =>
    match answer with
    | .error cause =>
      (p.note a [connectEvent .warn "ldap connection failed"
        [p.urlField, ⟨"e", .shown cause.message⟩]]).openingFailed a purpose
          (.connect p.connector.url.text cause)
    | .ok () =>
      let c := p.connections.length
      let p := { p with connections := p.connections ++ [{ readySince := p.now : Connection }] }
      let p := p.note a [connectEvent .debug "connected" [p.urlField]]
      let bindDn := p.connector.bindDn
      if bindDn.isEmpty then
        (p.note a [connectEvent .trace "keeping anonymous session" []]).ready a purpose c
      else
        ((p.note a [connectEvent .debug "binding" [⟨"bind_dn", .shown bindDn⟩]]).send
          (.bind c bindDn p.connector.bindPassword)).setPhase a (.opening purpose (.binding c))
  | _ => p

/-- The directory answers a bind, or does not. -/
def bound (p : Pool) (a : Nat) (answer : Except RequestError Result) : Pool :=
  match p.phase? a with
  | some (.opening purpose (.binding c)) =>
    let p := p.note a (bindEvents p.connector.bindDn answer)
    match bindError? p.connector.bindDn answer with
    | none => p.ready a purpose c
    | some e => (p.unbind c).setPhase a (.opening purpose (.unbinding c e))
  | _ => p

/-- A connection whose bind failed has been unbound. -/
def unbound (p : Pool) (a : Nat) : Pool :=
  match p.phase? a with
  | some (.opening purpose (.unbinding _ e)) => p.openingFailed a purpose e
  | _ => p

/-! ### Borrowing and giving back -/

/-- An acquire goes on to the permits, or opens the pool. It waits while another one does. -/
def enter (p : Pool) (a : Nat) : Pool :=
  match p.phase? a with
  | some .started =>
    if p.isInitialised then p.setPhase a .queued
    else if p.isInitialising then p
    else
      (p.note a [event .info "opening connection pool"
        [p.urlField, ⟨"size", .number p.size⟩]]).connect a (.initial [])
  | _ => p

/-- An acquire gets a permit, if there is one. -/
def grant (p : Pool) (a : Nat) : Pool :=
  match p.phase? a with
  | some .queued =>
    if p.permits = 0 then p else { p with permits := p.permits - 1 }.setPhase a .permitted
  | _ => p

/-- An acquire has waited too long for a permit. -/
def expire (p : Pool) (a : Nat) : Pool :=
  match p.phase? a with
  | some .queued =>
    if p.permits = 0 then
      (p.note a [event .warn "connection pool exhausted" [⟨"size", .number p.size⟩]]).setPhase a
        (.failed (.poolExhausted (.ofMillis p.checkoutTimeout)))
    else p
  | _ => p

/-- An acquire with a permit looks at the connection at rest that came last. A connection that is
closed or too old is put away, and without any the acquire opens one. -/
def take (p : Pool) (a : Nat) : Pool :=
  match p.phase? a with
  | some .permitted =>
    match p.idle with
    | [] => p.connect a .loan
    | c :: idle =>
      let p := { p with idle }
      if !p.isAlive c then p.note a [event .debug "replacing closed connection" []]
      else if p.isExpired c then
        (p.note a [event .debug "replacing connection exceeding maximum age" []]).unbind c
      else p.setPhase a (.holding c)
  | _ => p

/-- A borrower searches. -/
def search (p : Pool) (a : Nat) (query : Query) : Pool :=
  match p.phase? a with
  | some (.holding c) => p.send (.search c query)
  | _ => p

/-- A borrower gives its connection back. It is kept if it is alive and young enough, and if
connections are kept at all. -/
def giveBack (p : Pool) (a : Nat) : Pool :=
  match p.phase? a with
  | some (.holding c) =>
    let p := p.setPhase a .returned
    if !p.isAlive c then p.note a [event .debug "dropping closed connection" []]
    else if !p.keepAlive || p.isExpired c then p.unbind c
    else { p with idle := c :: p.idle }
  | _ => p

/-- A borrower gives its permit back. -/
def free (p : Pool) (a : Nat) : Pool :=
  match p.phase? a with
  | some .returned => { p with permits := p.permits + 1 }.setPhase a .released
  | _ => p

/-- The connections that an acquire has opened and nobody else knows of. -/
def ownConnections (purpose : Purpose) (stage : Stage) : List Nat :=
  match stage with
  | .connecting => purpose.ready
  | .binding c | .unbinding c _ => c :: purpose.ready

/-- The caller of an acquire that is not over gives up. What it was opening is lost, and its permit
is free again. -/
def abandon (p : Pool) (a : Nat) : Pool :=
  match p.phase? a with
  | some .started | some .queued => p.setPhase a .abandoned
  | some .permitted => { p with permits := p.permits + 1 }.setPhase a .abandoned
  | some (.opening purpose stage) =>
    let p := (ownConnections purpose stage).foldl (·.setFate · .dropped) p
    let p := if purpose = .loan then { p with permits := p.permits + 1 } else p
    p.setPhase a .abandoned
  | _ => p

/-! ### The machine -/

/-- One step of the machine. -/
def step (p : Pool) : Step → Pool
  | .start spans => { p with acquires := p.acquires ++ [{ spans }] }
  | .enter a => p.enter a
  | .connected a answer => p.connected a answer
  | .bound a answer => p.bound a answer
  | .unbound a => p.unbound a
  | .grant a => p.grant a
  | .expire a => p.expire a
  | .take a => p.take a
  | .search a query => p.search a query
  | .giveBack a => p.giveBack a
  | .free a => p.free a
  | .abandon a => p.abandon a
  | .close c => p.setFate c .closed
  | .advance millis => { p with now := p.now + millis }

/-- Steps in a row. -/
def run (p : Pool) (steps : List Step) : Pool := steps.foldl step p

@[simp] theorem run_nil (p : Pool) : p.run [] = p := rfl

@[simp] theorem run_cons (p : Pool) (s : Step) (ss : List Step) :
    p.run (s :: ss) = (p.step s).run ss := rfl

theorem run_append (p : Pool) (ss ts : List Step) : p.run (ss ++ ts) = (p.run ss).run ts :=
  List.foldl_append

/-! ### Views -/

/-- The connection that an acquire holds. -/
def held? (p : Pool) (a : Nat) : Option Nat :=
  match p.phase? a with
  | some (.holding c) => some c
  | _ => none

/-- Why an acquire failed. -/
def error? (p : Pool) (a : Nat) : Option Error :=
  match p.phase? a with
  | some (.failed e) => some e
  | _ => none

/-- How many connections have been opened. -/
def opened (p : Pool) : Nat := p.connections.length

end Pool

end RoleLookup.Directory
