import RoleLookup.Directory.Network
import RoleLookup.Health.Basic

/-!
# The directory client

A lookup borrows a connection, searches for the entries of a user, gives the connection back and
answers with the common names of the user's groups. A health check borrows a connection and gives
it back.

* `Settings.rolesOf`, what the entries of a complete search mean;
* `Lookup`, `Check`, a lookup and a health check, and how far each is;
* `Client`, the pool, all lookups and all checks so far;
* `Step`, `step`, `run`, the machine: a step that does not apply changes nothing;
* `Client.lookup`, `Client.check`, one lookup and one check when nobody else acts.
-/

namespace RoleLookup.Directory

open Log

/-! ### What entries mean -/

namespace Settings

/-- The text of the filter for a user. -/
def filterText (s : Settings) (user : String) : String := Filter.equality s.userIdAttribute user

/-- The search for a user, unless the text of its filter is not one. -/
def query? (s : Settings) (user : String) : Option Query :=
  (Filter.read? (s.filterText user)).map fun filter => ⟨s.searchBase, filter, s.groupAttribute⟩

/-- What the entries that match a user mean. -/
def rolesOf (s : Settings) (user : String) : List Entry → Except LookupError RoleSet
  | [] => .ok .empty
  | [entry] => .ok (entry.roles s.groupAttribute)
  | entries => if s.strictAmbiguity then .error (.ambiguousUser user entries.length) else .ok .empty

/-- Logged when the entries that match a user are read. -/
def entryEvents (s : Settings) : List Entry → List Event
  | [] => [clientEvent .debug "no directory entry matches" []]
  | [entry] => entry.roleEvents s.groupAttribute s.debug
  | entries =>
    if s.strictAmbiguity then []
    else
      [clientEvent .warn "user is ambiguous, resolving no roles"
        [⟨"count", .number entries.length⟩]]

end Settings

/-! ### Lookups and checks -/

namespace Client

/-- How far a lookup is. -/
inductive Phase
  | acquiring
  | searching
  | finished (outcome : Except LookupError RoleSet)
  | abandoned
  deriving Repr

/-- A lookup, with the number of its acquire. -/
structure Lookup where
  user : String
  acquire : Nat
  phase : Phase := .acquiring
  deriving Repr

/-- A health check, with the number of its acquire, and its record once it is over. -/
structure Check where
  acquire : Nat
  record : Option Health.Record := none
  deriving Repr

end Client

/-- The state of a client. Lookups and checks are numbered in the order in which they started. -/
structure Client where
  settings : Settings
  pool : Pool
  lookups : List Client.Lookup := []
  checks : List Client.Check := []
  deriving Repr

namespace Client

/-- A client that has done nothing yet. -/
def ofSettings (settings : Settings) (connector : Connector) : Client :=
  { settings, pool := .ofSettings settings connector }

/-- One moment of a run. -/
inductive Step
  /-- A step of the pool. It does not act for the borrower of a lookup or check. -/
  | pool (step : Pool.Step)
  /-- A lookup starts. -/
  | lookup (user : String)
  /-- A lookup that has a connection searches. -/
  | search (lookup : Nat)
  /-- A search is answered. -/
  | answer (lookup : Nat) (answer : SearchAnswer)
  /-- A lookup whose acquire failed ends. -/
  | fail (lookup : Nat)
  /-- The caller of a lookup gives up. -/
  | abandon (lookup : Nat)
  /-- A health check starts, as part of some activities. -/
  | check (spans : List Span)
  /-- A health check whose acquire is over ends. -/
  | conclude (check : Nat)
  deriving Repr

/-! ### Parts of steps -/

/-- The span of a lookup. -/
def lookupSpan (user : String) : Span :=
  ⟨.info, "tiny_roles_ldap::client", "get_user_roles", [⟨"user", .text user⟩]⟩

/-- The client after a step of its pool. -/
def onPool (c : Client) (s : Pool.Step) : Client := { c with pool := c.pool.step s }

/-- The client with events of an acquire in its log. -/
def note (c : Client) (a : Nat) (events : List Event) : Client :=
  { c with pool := c.pool.note a events }

/-- The client with a lookup in another phase. -/
def setPhase (c : Client) (l : Nat) (phase : Phase) : Client :=
  { c with lookups := c.lookups.modify l fun k => { k with phase } }

/-- The client with the record of a check. -/
def setRecord (c : Client) (h : Nat) (record : Health.Record) : Client :=
  { c with checks := c.checks.modify h fun k => { k with record := some record } }

/-- A connection is given back, and then its permit. -/
def release (c : Client) (a : Nat) : Client :=
  { c with pool := c.pool.run [.giveBack a, .free a] }

/-- Whether an acquire is that of a lookup or a check. -/
def owns (c : Client) (a : Nat) : Bool :=
  c.lookups.any (·.acquire == a) || c.checks.any (·.acquire == a)

end Client

/-- The acquire for whose borrower a step acts. -/
def Pool.Step.borrower? : Pool.Step → Option Nat
  | .search a _ | .giveBack a | .free a | .abandon a => some a
  | _ => none

namespace Client

/-! ### Steps -/

/-- A search that came to nothing ends its lookup. -/
def searchFailed (c : Client) (l a : Nat) (cause : RequestError) : Client :=
  let c := c.note a [clientEvent .warn "searching for user failed" [⟨"e", .shown cause.message⟩]]
  (c.release a).setPhase l (.finished (.error (Error.search cause).toLookupError))

/-- A lookup that has a connection searches. -/
def search (c : Client) (l : Nat) : Client :=
  match c.lookups[l]? with
  | some ⟨user, a, .acquiring⟩ =>
    match c.pool.held? a with
    | none => c
    | some _ =>
      let c := c.note a [clientEvent .debug "searching"
        [⟨"base", .shown c.settings.searchBase⟩,
          ⟨"filter", .shown (c.settings.filterText user)⟩]]
      match c.settings.query? user with
      | some query => (c.onPool (.search a query)).setPhase l .searching
      | none => c.searchFailed l a .filter
  | _ => c

/-- A search is answered. The connection is given back before its entries are read. -/
def answer (c : Client) (l : Nat) (answer : SearchAnswer) : Client :=
  match c.lookups[l]? with
  | some ⟨user, a, .searching⟩ =>
    match answer.entries with
    | .error cause => c.searchFailed l a cause
    | .ok raw =>
      let entries := raw.map RawEntry.decode
      ((c.release a).note a (c.settings.entryEvents entries)).setPhase l
        (.finished (c.settings.rolesOf user entries))
  | _ => c

/-- A lookup whose acquire failed ends. -/
def fail (c : Client) (l : Nat) : Client :=
  match c.lookups[l]? with
  | some ⟨_, a, .acquiring⟩ =>
    match c.pool.error? a with
    | some e => c.setPhase l (.finished (.error e.toLookupError))
    | none => c
  | _ => c

/-- The caller of a lookup gives up. A connection that it has goes back. -/
def abandon (c : Client) (l : Nat) : Client :=
  match c.lookups[l]? with
  | some ⟨_, a, .acquiring⟩ => ((c.onPool (.abandon a)).release a).setPhase l .abandoned
  | some ⟨_, a, .searching⟩ => (c.release a).setPhase l .abandoned
  | _ => c

/-- The record of a check that had a connection. -/
def connectedRecord (bindDn : String) (connected : Bool) : Health.Record :=
  ⟨connected, .object [("bindDn", .text bindDn), ("connected", .bool connected)]⟩

/-- The record of a check that had none. -/
def unconnectedRecord (bindDn : String) (e : Error) : Health.Record :=
  ⟨false, .object [("bindDn", .text bindDn), ("connected", .bool false),
    ("error", .text e.message)]⟩

/-- A health check whose acquire is over ends. It is good news if the connection can be used. -/
def conclude (c : Client) (h : Nat) : Client :=
  match c.checks[h]? with
  | some ⟨a, none⟩ =>
    let bindDn := c.pool.connector.bindDn
    match c.pool.held? a, c.pool.error? a with
    | some k, _ => (c.release a).setRecord h (connectedRecord bindDn (c.pool.isAlive k))
    | none, some e =>
      (c.note a [clientEvent .warn "directory health check failed"
        [⟨"e", .shown e.message⟩]]).setRecord h (unconnectedRecord bindDn e)
    | none, none => c
  | _ => c

/-- One step of the machine. -/
def step (c : Client) : Step → Client
  | .pool s =>
    match s.borrower? with
    | some a => if c.owns a then c else c.onPool s
    | none => c.onPool s
  | .lookup user =>
    { c.onPool (.start [lookupSpan user]) with
      lookups := c.lookups ++ [{ user, acquire := c.pool.acquires.length : Lookup }] }
  | .search l => c.search l
  | .answer l a => c.answer l a
  | .fail l => c.fail l
  | .abandon l => c.abandon l
  | .check spans =>
    { c.onPool (.start spans) with
      checks := c.checks ++ [{ acquire := c.pool.acquires.length : Check }] }
  | .conclude h => c.conclude h

/-- Steps in a row. -/
def run (c : Client) (steps : List Step) : Client := steps.foldl step c

@[simp] theorem run_nil (c : Client) : c.run [] = c := rfl

@[simp] theorem run_cons (c : Client) (s : Step) (ss : List Step) :
    c.run (s :: ss) = (c.step s).run ss := rfl

theorem run_append (c : Client) (ss ts : List Step) : c.run (ss ++ ts) = (c.run ss).run ts :=
  List.foldl_append

/-! ### Views -/

/-- How a lookup ended, if it did. -/
def outcome? (c : Client) (l : Nat) : Option (Except LookupError RoleSet) :=
  match c.lookups[l]? with
  | some ⟨_, _, .finished o⟩ => some o
  | _ => none

/-- The record of a check, if it is over. -/
def record? (c : Client) (h : Nat) : Option Health.Record := (c.checks[h]?).bind (·.record)

/-- The connection and the search that a lookup waits for. -/
def awaited? (c : Client) (l : Nat) : Option (Nat × Query) :=
  match c.lookups[l]? with
  | some ⟨user, a, .searching⟩ => do
    let k ← c.pool.held? a
    let query ← c.settings.query? user
    return (k, query)
  | _ => none

/-! ### One lookup or check at a time -/

variable {ν : Type}

/-- An acquire goes on until it holds a connection or is over. -/
def acquire (net : Network ν) (a : Nat) (c : Client) (n : ν) : Client × ν :=
  let (steps, n) := c.pool.course net a n
  (c.run (steps.map .pool), n)

/-- One lookup from start to end, when nobody else acts. -/
def lookup (net : Network ν) (user : String) (c : Client) (n : ν) :
    Client × ν × Option (Except LookupError RoleSet) :=
  let l := c.lookups.length
  let a := c.pool.acquires.length
  let (c, n) := (c.step (.lookup user)).acquire net a n
  let c := c.run [.search l, .fail l]
  match c.awaited? l with
  | none => (c, n, c.outcome? l)
  | some (k, query) =>
    let (n, r) := net.search k query n
    let c := c.run ((Pool.replySteps k r).map .pool ++ [.answer l r.answer])
    (c, n, c.outcome? l)

/-- One health check from start to end, when nobody else acts. -/
def check (net : Network ν) (spans : List Span) (c : Client) (n : ν) :
    Client × ν × Option Health.Record :=
  let h := c.checks.length
  let a := c.pool.acquires.length
  let (c, n) := (c.step (.check spans)).acquire net a n
  let c := c.step (.conclude h)
  (c, n, c.record? h)

end Client

end RoleLookup.Directory
