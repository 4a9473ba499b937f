import RoleLookup.Configuration.Basic
import RoleLookup.Directory.Client
import RoleLookup.Provider.Basic

/-!
# The service

A provider in front of the client of one directory, with their health checks.

* `Service.build`, the service that a configuration describes;
* `Service.lookup`, `Service.lookupTogether`, roles of users;
* `Service.health`, the statements of both checks;
* `Service.report`, what the reporters publish as time goes by.

Every operation is given the network that the directory is reached by, and answers with the events
that it logs.
-/

namespace RoleLookup

open Directory (Client Network)

/-- A provider, a client, and the state of the network. -/
structure Service (ν : Type) where
  directoryName : String
  health : HealthSettings
  provider : Provider
  client : Client
  network : ν
  deriving Repr

namespace Service

/-! ### Construction -/

/-- Why there is no service. -/
inductive BuildError
  | directory (cause : Directory.Error)
  /-- The cache cannot be made, and the program ends at once. -/
  | cache (cause : CacheSettings.Error)
  deriving DecidableEq, Repr

/-- Wording of an error. -/
def BuildError.message : BuildError → String
  | .directory cause => "directory setup failed: " ++ cause.message
  | .cache cause => cause.message

/-- An event of this part. -/
def event (level : Log.Level) (message : String) (fields : List Log.Field) : Log.Event :=
  ⟨level, "tiny_roles_main::constructor", some message, fields, []⟩

variable {ν : Type}

/-- The service of a configuration. -/
def build (c : Configuration) (files : Files) (network : ν) :
    List Log.Event × Except BuildError (Service ν) :=
  let d := c.directory
  let (setup, connector) := d.connector files
  let log := event .debug "directory configuration" [⟨"directory", .shown d.text⟩] :: setup
  match connector with
  | .error e => (log, .error (.directory e))
  | .ok connector =>
    let log := log ++ [event .debug "cache configuration" [⟨"cache_config", .shown c.cache.text⟩]]
    match c.cache.build with
    | .error e => (log, .error (.cache e))
    | .ok cache =>
      let coalescing :=
        if c.coalesceMisses then [event .info "coalescing concurrent cache misses" []] else []
      (log ++ coalescing, .ok {
        directoryName := "ldap " ++ d.host ++ ":" ++ toString d.port
        health := c.health
        provider := .ofCache c.coalesceMisses cache
        client := .ofSettings d connector
        network })

/-! ### Lookups -/

/-- How a lookup of the client ends. -/
def outcomeOf : Except LookupError RoleSet → Outcome
  | .ok roles => .roles roles
  | .error e => .failed e

/-- The directory as the provider sees it. A lookup of the client that does not end counts as
unavailable. -/
def directory (net : Network ν) : Provider.Directory (Client × ν) := fun user (client, n) =>
  let (after, n, outcome) := client.lookup net user n
  ((after, n), {
    events := after.pool.log.drop client.pool.log.length
    elapsed := after.pool.now - client.pool.now
    outcome := (outcome.map outcomeOf).getD (.failed .unavailable) })

/-- The service after the provider and the client have changed, and what the provider logged. -/
def afterLookups (s : Service ν) (provider : Provider) (d : Client × ν) :
    Service ν × List Log.Event :=
  ({ s with provider, client := d.1, network := d.2 }, provider.log.drop s.provider.log.length)

/-- The service as part of some activities: its lookups happen within them. -/
def within (spans : List Log.Span) (s : Service ν) : Service ν :=
  { s with provider := { s.provider with activities := spans } }

/-- The roles of a user. -/
def lookup (net : Network ν) (user : String) (s : Service ν) :
    Service ν × List Log.Event × Option Outcome :=
  let (provider, d, outcome) := s.provider.lookup (directory net) user (s.client, s.network)
  let (s, events) := s.afterLookups provider d
  (s, events, outcome)

/-- The roles of users who are looked up together. -/
def lookupTogether (net : Network ν) (users : List String) (s : Service ν) :
    Service ν × List Log.Event × List (Option Outcome) :=
  let (provider, d, outcomes) :=
    s.provider.lookupTogether (directory net) users (s.client, s.network)
  let (s, events) := s.afterLookups provider d
  (s, events, outcomes)

/-- Time passes. -/
def advance (millis : Nat) (s : Service ν) : Service ν :=
  { s with
    provider := s.provider.step (.advance millis)
    client := s.client.step (.pool (.advance millis)) }

/-! ### Health -/

/-- The span of the check of the directory alone. -/
def directorySpan : Log.Span := ⟨.info, "tiny_roles_ldap::health", "check", []⟩

/-- A check of the connection to the directory, as part of some activities. One that does not end
is no good news. -/
def connectionCheck (net : Network ν) (name : String) (spans : List Log.Span) :
    Health.Check (Client × ν) where
  name
  command := fun (client, n) =>
    let (after, n, record) := client.check net spans n
    ((after, n), after.pool.log.drop client.pool.log.length, record.getD ⟨false, .null⟩)

/-- The check of the provider. The cache has no say in it. -/
def providerCheck (net : Network ν) : Health.Check (Client × ν) :=
  connectionCheck net "roles provider" []

/-- The check of the directory. -/
def directoryCheck (net : Network ν) (s : Service ν) : Health.Check (Client × ν) :=
  connectionCheck net s.directoryName [directorySpan]

/-- Both checks. -/
def checks (net : Network ν) (s : Service ν) : List (Health.Check (Client × ν)) :=
  [providerCheck net, s.directoryCheck net]

/-- The service after checks. Time that they took passes for the cache too. -/
def afterChecks (s : Service ν) (d : Client × ν) : Service ν :=
  { s with
    provider := s.provider.step (.advance (d.1.pool.now - s.client.pool.now))
    client := d.1
    network := d.2 }

/-- Some checks are run in order. -/
def runChecks (checks : List (Health.Check (Client × ν))) (s : Service ν) :
    Service ν × List Log.Event × List Health.Statement :=
  let (d, events, statements) := Health.executeAll checks (s.client, s.network)
  (s.afterChecks d, events, statements)

/-- The statements of both checks. -/
def runHealth (net : Network ν) (s : Service ν) :
    Service ν × List Log.Event × List Health.Statement :=
  runChecks (s.checks net) s

/-! ### Reporters -/

/-- A check and the reporter that runs it. -/
structure Reporting (ν : Type) where
  check : Health.Check (Client × ν)
  reporter : Health.Reporter

/-- The reporters: the provider is checked on the fast cadence and the directory on the slow one. -/
def reporters (net : Network ν) (s : Service ν) : List (Reporting ν) :=
  [⟨providerCheck net, .ofPeriod (1000 * s.health.fast)⟩,
    ⟨s.directoryCheck net, .ofPeriod (1000 * s.health.slow)⟩]

/-- What a reporter does in one round: what its check logs, and what it publishes. -/
structure Publication where
  events : List Log.Event
  statement : Health.Statement
  deriving Repr

/-- The reporters that are due at a time run their checks, each of them once. -/
def reportRound (now : Nat) (s : Service ν) :
    List (Reporting ν) → List (Reporting ν) × Service ν × List Publication
  | [] => ([], s, [])
  | r :: rs =>
    if r.reporter.isDue now then
      let ((client, n), events, statement) := r.check.execute (s.client, s.network)
      let (rs, s, publications) := reportRound now (s.afterChecks (client, n)) rs
      ({ r with reporter := r.reporter.tick now } :: rs, s, ⟨events, statement⟩ :: publications)
    else
      let (rs, s, publications) := s.reportRound now rs
      (r :: rs, s, publications)

/-- Rounds of reporters from a time on, the first at once and each other one after some
milliseconds. -/
def reportRounds (now : Nat) (rs : List (Reporting ν)) (s : Service ν) :
    List Nat → Service ν × List (List Publication)
  | [] =>
    let (_, s, publications) := s.reportRound now rs
    (s, [publications])
  | delay :: delays =>
    let (rs, s, publications) := s.reportRound now rs
    let (s, rounds) := reportRounds (now + delay) rs (s.advance delay) delays
    (s, publications :: rounds)

/-- What new reporters publish as time goes by. -/
def report (net : Network ν) (delays : List Nat) (s : Service ν) :
    Service ν × List (List Publication) :=
  s.reportRounds 0 (s.reporters net) delays

end Service

end RoleLookup
