import RoleLookup.Program
import RoleLookup.Proofs.Service.Construction
import RoleLookup.Proofs.Service.Passwords

/-!
# Secrets stay out of sight

Two configurations that differ in nothing but the texts of their passwords are told apart by nobody
but the directory: every event, answer, record and line of output is the same.

* `build_alike`, services that are built of them;
* `Operation`, `Observation`, what happens to a service and what is seen of it, and
  `performAll_alike`, two such services look alike whatever happens;
* `Watch.writes`, `Run.seen`, what is seen of a whole program, and `Program.seen_run`, two programs
  of which each reads one of the configurations look alike;
* `secrets_reach_only_binds`, all of it, with what is sent.
-/

namespace RoleLookup

open Directory (Client Network Secrets Connector)

/-! ### Construction -/

/-- The configuration with other secrets. -/
def Configuration.withSecrets (c : Configuration) (x : Secrets) : Configuration :=
  { c with directory := c.directory.withSecrets x }

namespace Directory

variable {s : Settings} {x : Secrets} {files files' : Files}

theorem Settings.text_withSecrets (s : Settings) (x : Secrets) :
    (s.withSecrets x).text = s.text := rfl

theorem TrustStore.load_congr {path : String} (h : files' path = files path) :
    load files' path = load files path := by
  simp only [load, h]

/-- Other secrets give the same events and failures, and a connector that differs in its
password. -/
theorem Settings.connector_withSecrets
    (present : x.trustStorePassword.isSome = s.trustStorePassword.isSome)
    (store : ∀ path, s.trustStore = some path → files' path = files path) :
    (s.withSecrets x).connector files' =
      ((s.connector files).1, (s.connector files).2.map (·.withPassword x.password)) := by
  have hurl : (s.withSecrets x).url = s.url := rfl
  have hpassword : (s.withSecrets x).password = x.password := rfl
  simp only [connector, hurl, hpassword]
  simp only [withSecrets, present]
  cases htrust : s.trustStore with
  | none =>
    cases s.url <;> rfl
  | some path =>
    cases s.tls with
    | false => cases s.url <;> rfl
    | true =>
      simp only [TrustStore.load_congr (store path htrust)]
      cases (TrustStore.load files path).2 with
      | error e => rfl
      | ok n => cases s.url <;> rfl

end Directory

namespace Service

variable {ν : Type} {net : Network ν} {R : ν → ν → Prop} {x : Secrets}

/-- Constructions between which nothing but secrets tells. -/
inductive BuiltAlike (R : ν → ν → Prop) (x : Secrets) :
    Except BuildError (Service ν) → Except BuildError (Service ν) → Prop
  | error (e : BuildError) : BuiltAlike R x (.error e) (.error e)
  | ok {s s' : Service ν} (h : Alike R x s s') : BuiltAlike R x (.ok s) (.ok s')

theorem BuiltAlike.of_error {b b' : Except BuildError (Service ν)} (h : BuiltAlike R x b b')
    {e : BuildError} (he : b = .error e) : b' = .error e := by
  cases h with
  | error => exact he
  | ok => cases he

theorem BuiltAlike.of_ok {b b' : Except BuildError (Service ν)} (h : BuiltAlike R x b b')
    {s : Service ν} (hs : b = .ok s) : ∃ s', b' = .ok s' ∧ s.Alike R x s' := by
  cases h with
  | error => cases hs
  | ok halike =>
    cases hs
    exact ⟨_, rfl, halike⟩

theorem build_alike {c : Configuration} {files files' : Files} {n n' : ν} (start : R n n')
    (present : x.trustStorePassword.isSome = c.directory.trustStorePassword.isSome)
    (store : ∀ path, c.directory.trustStore = some path → files' path = files path) :
    (build (c.withSecrets x) files' n').1 = (build c files n).1 ∧
      BuiltAlike R x (build c files n).2 (build (c.withSecrets x) files' n').2 := by
  have hconnector := Directory.Settings.connector_withSecrets present store
  simp only [build, Configuration.withSecrets, hconnector, Directory.Settings.text_withSecrets]
  cases (c.directory.connector files).2 with
  | error e => exact ⟨rfl, .error _⟩
  | ok connector =>
    simp only [Except.map]
    cases c.cache.build with
    | error e => exact ⟨rfl, .error _⟩
    | ok cache => exact ⟨rfl, .ok ⟨rfl, rfl, rfl, rfl, start⟩⟩

/-! ### What happens to a service -/

/-- Something that happens to a service. -/
inductive Operation (ν : Type)
  | lookup (user : String)
  | lookupTogether (users : List String)
  | health
  | report (delays : List Nat)
  | advance (millis : Nat)
  /-- One moment of the provider alone. -/
  | provider (step : Provider.Step)
  /-- One moment of the client alone. -/
  | client (step : Client.Step)
  /-- The network or the directory behind it changes. -/
  | change (f : ν → ν)

/-- An operation that does not make related states of the network unrelated. -/
def Operation.Respects (R : ν → ν → Prop) : Operation ν → Prop
  | .change f => ∀ n n', R n n' → R (f n) (f n')
  | _ => True

/-- What is seen of an operation. -/
structure Observation where
  events : List Log.Event := []
  outcomes : List (Option Outcome) := []
  statements : List Health.Statement := []
  publications : List (List Publication) := []

/-- An operation is performed. -/
def perform (net : Network ν) (s : Service ν) : Operation ν → Service ν × Observation
  | .lookup user =>
    let r := s.lookup net user
    (r.1, { events := r.2.1, outcomes := [r.2.2] })
  | .lookupTogether users =>
    let r := s.lookupTogether net users
    (r.1, { events := r.2.1, outcomes := r.2.2 })
  | .health =>
    let r := s.runHealth net
    (r.1, { events := r.2.1, statements := r.2.2 })
  | .report delays =>
    let r := s.report net delays
    (r.1, { publications := r.2 })
  | .advance millis => (s.advance millis, {})
  | .provider step =>
    let r := s.afterLookups (s.provider.step step) (s.client, s.network)
    (r.1, { events := r.2 })
  | .client step =>
    let client := s.client.step step
    ({ s with client }, { events := client.pool.log.drop s.client.pool.log.length })
  | .change f => ({ s with network := f s.network }, {})

/-- Operations in a row. -/
def performAll (net : Network ν) : List (Operation ν) → Service ν → Service ν × List Observation
  | [], s => (s, [])
  | op :: ops, s =>
    let r := s.perform net op
    let rest := performAll net ops r.1
    (rest.1, r.2 :: rest.2)

theorem perform_alike (blind : net.Blind R) (op : Operation ν) (hop : op.Respects R) :
    Oblivious (Alike R x) fun s => s.perform net op := by
  cases op with
  | lookup user =>
    exact (lookup_alike blind user).map fun r =>
      ({ events := r.1, outcomes := [r.2] } : Observation)
  | lookupTogether users =>
    exact (lookupTogether_alike blind users).map fun r =>
      ({ events := r.1, outcomes := r.2 } : Observation)
  | health =>
    exact (runHealth_alike blind).map fun r =>
      ({ events := r.1, statements := r.2 } : Observation)
  | report delays =>
    exact (report_alike blind delays).map fun r => ({ publications := r } : Observation)
  | advance millis =>
    intro s s' h
    exact ⟨rfl, h.advance millis⟩
  | provider step =>
    intro s s' h
    obtain ⟨hevents, hafter⟩ := h.afterLookups (s.provider.step step) h.behind
    simp only [perform, h.provider]
    exact ⟨congrArg (fun events => ({ events } : Observation)) hevents, hafter⟩
  | client step =>
    intro s s' h
    simp only [perform, h.client, ← Client.step_withSecrets, Client.log_withSecrets]
    exact ⟨trivial, h.directoryName, h.health, h.provider, rfl, h.network⟩
  | change f =>
    intro s s' h
    exact ⟨rfl, h.directoryName, h.health, h.provider, h.client, hop _ _ h.network⟩

/-- Services that differ in secrets look alike whatever happens. -/
theorem performAll_alike (blind : net.Blind R) {ops : List (Operation ν)}
    (hops : ∀ op ∈ ops, op.Respects R) : Oblivious (Alike R x) (performAll net ops) := by
  induction ops with
  | nil => exact .const _
  | cons op ops ih =>
    obtain ⟨hop, hrest⟩ := List.forall_mem_cons.mp hops
    exact (perform_alike blind op hop).bind fun seen => (ih hrest).map fun rest => seen :: rest

end Service

/-! ### The program -/

/-- What a program that watches writes until it is told to stop. Before each round something
happens to its service. -/
def Watch.writes {ν : Type} (net : Network ν) :
    List (List (Service.Operation ν) × Nat) → Watch ν → List Output
  | [], w => w.stop
  | (ops, now) :: rounds, w =>
    let (service, seen) := w.service.performAll net ops
    let (w, output) := { w with service }.round now
    w.logging.events (seen.flatMap (·.events)) ++ output ++ Watch.writes net rounds w

namespace Watch

variable {ν : Type} {net : Network ν} {R : ν → ν → Prop} {x : Secrets} {w w' : Watch ν}

/-- Programs that watch and between which nothing but secrets tells. -/
structure Alike (R : ν → ν → Prop) (x : Secrets) (w w' : Watch ν) : Prop where
  logging : w'.logging = w.logging
  span : w'.span = w.span
  reporters : w'.reporters = w.reporters
  unseeing : Service.Unseeing R x w.reporters
  service : w.service.Alike R x w'.service

theorem Alike.round (h : w.Alike R x w') (now : Nat) :
    (w'.round now).2 = (w.round now).2 ∧ (w.round now).1.Alike R x (w'.round now).1 := by
  obtain ⟨hanswer, hservice⟩ := Service.reportRound_alike h.unseeing now h.service
  obtain ⟨hreporters, hpublished⟩ := Prod.mk.inj hanswer
  simp only [Watch.round, h.reporters, h.logging, hpublished]
  exact ⟨trivial, rfl, h.span, hreporters, h.unseeing.reportRound now w.service, hservice⟩

theorem Alike.writes (blind : net.Blind R) (rounds : List (List (Service.Operation ν) × Nat))
    (hrounds : ∀ r ∈ rounds, ∀ op ∈ r.1, op.Respects R) (h : w.Alike R x w') :
    w'.writes net rounds = w.writes net rounds := by
  induction rounds generalizing w w' with
  | nil =>
    simp only [Watch.writes, stop, h.logging, h.span]
  | cons r rounds ih =>
    obtain ⟨ops, now⟩ := r
    obtain ⟨hops, hrest⟩ := List.forall_mem_cons.mp hrounds
    obtain ⟨hseen, hservice⟩ := Service.performAll_alike blind hops h.service
    have hbefore : Alike R x { w with service := (w.service.performAll net ops).1 }
        { w' with service := (w'.service.performAll net ops).1 } :=
      ⟨h.logging, h.span, h.reporters, h.unseeing, hservice⟩
    obtain ⟨houtput, hafter⟩ := hbefore.round now
    simp only [Watch.writes, hseen, houtput, ih hrest hafter, hafter.logging]

theorem ofService_alike {s s' : Service ν} (blind : net.Blind R) (h : s.Alike R x s')
    (g : Logging) (span : Log.Span) :
    (ofService net g span s').2 = (ofService net g span s).2 ∧
      (ofService net g span s).1.Alike R x (ofService net g span s').1 := by
  have hreporters : s'.reporters net = s.reporters net := h.reporters
  simp only [ofService, hreporters]
  exact ⟨trivial, rfl, rfl, rfl, Service.unseeing_reporters blind s, h⟩

end Watch

namespace Program

variable {ν : Type} {net : Network ν} {R : ν → ν → Prop} {x : Secrets}

/-- All that is seen of a run: what it writes, and if it ends by itself, its exit code and what is
complained of. A program that watches has some rounds before it is told to stop. -/
def Run.seen (net : Network ν) (rounds : List (List (Service.Operation ν) × Nat)) :
    Run ν → List Output × Option (Nat × Option String)
  | .ended output exitCode complaint => (output, some (exitCode, complaint))
  | .watching output w => (output ++ w.writes net rounds, none)

theorem Run.seen_after (rounds : List (List (Service.Operation ν) × Nat)) (output : List Output)
    (r : Run ν) :
    (r.after output).seen net rounds =
      (output ++ (r.seen net rounds).1, (r.seen net rounds).2) := by
  cases r with
  | ended => rfl
  | watching more w => simp only [Run.after, Run.seen, List.append_assoc]

theorem lookup_congr {s s' : Service ν} (blind : net.Blind R) (h : s.Alike R x s')
    (user : String) : lookup net user s' = lookup net user s := by
  obtain ⟨hanswer, -⟩ := Service.lookup_alike blind user h
  simp only [lookup, hanswer]

theorem health_congr {s s' : Service ν} (blind : net.Blind R) (h : s.Alike R x s')
    (span : Log.Span) : health net span s' = health net span s := by
  obtain ⟨hanswer, -⟩ := Service.runHealth_alike blind h
  simp only [health, hanswer]

variable {c : Configuration} {files files' : Files} {n n' : ν}
  {rounds : List (List (Service.Operation ν) × Nat)}

theorem seen_execute (blind : net.Blind R) (start : R n n')
    (present : x.trustStorePassword.isSome = c.directory.trustStorePassword.isSome)
    (store : ∀ path, c.directory.trustStore = some path → files' path = files path)
    (hrounds : ∀ r ∈ rounds, ∀ op ∈ r.1, op.Respects R) (g : Logging) (task : Task) :
    (execute net g files' (c.withSecrets x) task n').seen net rounds =
      (execute net g files c task n).seen net rounds := by
  obtain ⟨hevents, hbuilt⟩ := Service.build_alike start present store
  simp only [execute, hevents]
  generalize (Service.build c files n).2 = built at hbuilt ⊢
  generalize (Service.build (c.withSecrets x) files' n').2 = built' at hbuilt ⊢
  cases hbuilt with
  | error e => rfl
  | @ok s s' h =>
    cases task with
    | lookup user => simp only [lookup_congr blind (h.within [taskSpan (.lookup user)]) user]
    | health => simp only [health_congr blind h (taskSpan .health)]
    | watch =>
      obtain ⟨houtput, hwatch⟩ := Watch.ofService_alike blind h g (taskSpan .watch)
      simp only [Run.seen, houtput, hwatch.writes blind rounds hrounds]

theorem seen_run (blind : net.Blind R) (start : R n n')
    (present : x.trustStorePassword.isSome = c.directory.trustStorePassword.isSome)
    (store : ∀ path, c.directory.trustStore = some path → files' path = files path)
    (hrounds : ∀ r ∈ rounds, ∀ op ∈ r.1, op.Respects R) (colours : Bool)
    {arguments : List String}
    (reads : ∀ a, CommandLine.parse arguments = .ok a →
      (Configuration.read files a.configuration).2 = .ok c ∧
        (Configuration.read files' a.configuration).2 = .ok (c.withSecrets x)) :
    (run net colours files' arguments n').seen net rounds =
      (run net colours files arguments n).seen net rounds := by
  unfold run
  cases hparse : CommandLine.parse arguments with
  | error r => rfl
  | ok a =>
    obtain ⟨hread, hread'⟩ := reads a hparse
    have hlog : (c.withSecrets x).log = c.log := rfl
    simp only [Configuration.read_eq_of_ok hread, Configuration.read_eq_of_ok hread', hlog,
      Run.seen_after, seen_execute blind start present store hrounds]

end Program

/-! ### All of it -/

/-- **Secrets reach only binds.** Take two configurations that differ in nothing but the texts of
the two passwords, and a network whose replies do not depend on them. The settings are shown alike.
The services are built with the same events and failures, and whatever happens to them, the same is
seen of both: events, answers, records of health checks and publications. What is sent is the same
but for the password in each bind. Nor do runs of the program differ, of which the one
configuration or the other is read. -/
theorem secrets_reach_only_binds {ν : Type} {net : Network ν} {R : ν → ν → Prop}
    (blind : net.Blind R) {n n' : ν} (start : R n n') {c : Configuration} {x : Secrets}
    (present : x.trustStorePassword.isSome = c.directory.trustStorePassword.isSome)
    {files files' : Files}
    (store : ∀ path, c.directory.trustStore = some path → files' path = files path) :
    let built := Service.build c files n
    let built' := Service.build (c.withSecrets x) files' n'
    (c.withSecrets x).directory.text = c.directory.text ∧
    (built'.1 = built.1 ∧ (∀ e, built.2 = .error e → built'.2 = .error e) ∧
      ∀ s, built.2 = .ok s → ∃ s', built'.2 = .ok s' ∧
        ∀ ops : List (Service.Operation ν), (∀ op ∈ ops, op.Respects R) →
          let r := s.performAll net ops
          let r' := s'.performAll net ops
          r'.2 = r.2 ∧ r'.1.provider = r.1.provider ∧
            r'.1.client.pool.log = r.1.client.pool.log ∧
            r'.1.client.lookups = r.1.client.lookups ∧ r'.1.client.checks = r.1.client.checks ∧
            r'.1.client.pool.sent = r.1.client.pool.sent.map (·.withPassword x.password)) ∧
    ∀ (colours : Bool) (arguments : List String)
      (rounds : List (List (Service.Operation ν) × Nat)),
      (∀ a, CommandLine.parse arguments = .ok a →
        (Configuration.read files a.configuration).2 = .ok c ∧
          (Configuration.read files' a.configuration).2 = .ok (c.withSecrets x)) →
      (∀ r ∈ rounds, ∀ op ∈ r.1, op.Respects R) →
      (Program.run net colours files' arguments n').seen net rounds =
        (Program.run net colours files arguments n).seen net rounds := by
  intro built built'
  obtain ⟨hevents, hbuilt⟩ := Service.build_alike start present store
  refine ⟨Directory.Settings.text_withSecrets c.directory x,
    ⟨hevents, fun e he => hbuilt.of_error he, fun s hs => ?_⟩, ?_⟩
  · obtain ⟨s', hs', halike⟩ := hbuilt.of_ok hs
    refine ⟨s', hs', fun ops hops => ?_⟩
    obtain ⟨hseen, hafter⟩ := Service.performAll_alike blind hops halike
    have hclient := hafter.client
    refine ⟨hseen, hafter.provider, ?_, ?_, ?_, ?_⟩
    · simp only [hclient, Client.log_withSecrets]
    · simp only [hclient, Client.withSecrets_lookups]
    · simp only [hclient, Client.withSecrets_checks]
    · simp only [hclient, Client.sent_withSecrets]
  · intro colours arguments rounds reads hrounds
    exact Program.seen_run blind start present store hrounds colours reads

/-- A network that remembers the passwords that it was given and accepts the first of them. -/
def remembering : Network (List String) where
  connect _ n := (n, { answer := .ok () })
  bind _ _ password n := (password :: n, { answer := .ok ⟨if n.isEmpty then 0 else 49, "", ""⟩ })
  search _ _ n :=
    (n, { answer := ⟨[.entry ⟨"uid=alice", [("memberOf", [Text.bytes "cn=admin"])]⟩],
      .ok ⟨0, "", ""⟩⟩ })

/-- It only counts what it remembers. -/
theorem remembering_blind : remembering.Blind fun n n' => n'.length = n.length where
  connect h _ _ := ⟨rfl, h⟩
  bind {n n'} h _ _ _ _ := by
    have hempty : n'.isEmpty = n.isEmpty := by
      cases n <;> cases n' <;> simp_all
    simp only [remembering, hempty, List.length_cons, h]
    exact ⟨trivial, trivial⟩
  search h _ _ := ⟨rfl, h⟩

/-- The directory accepts a connection and then no more. A lookup, one that falls back on the cache
and the checks look alike, though the directory was given the one password or the other. -/
theorem secrets_reach_only_binds_alice :
    let files (password : String) : Files := fun path =>
      if path = "roles.yml" then .ok (Text.bytes
        ("directory:\n  host: ldap\n  port: 389\n  search base: dc=example\n  pool size: 1\n" ++
          "  bind dn: cn=reader\n  bind password: " ++ password ++
          "\n  trust store password: " ++ password ++ "\n"))
      else .error Files.notFound
    let settings : Directory.Settings :=
      { host := "ldap", port := 389, searchBase := "dc=example", poolSize := 1,
        bindDn := some "cn=reader", bindPassword := some "first",
        trustStorePassword := some "first" }
    let c : Configuration := { directory := settings }
    let x : Secrets := ⟨some "second", some "second"⟩
    let built := Service.build c (files "first") ([] : List String)
    let built' := Service.build (c.withSecrets x) (files "second") []
    let ops : List (Service.Operation (List String)) :=
      [.change fun _ => [], .lookup "alice", .client (.pool (.close 0)), .advance 400000,
        .lookup "alice", .health]
    let seen (password : String) :=
      (Program.run remembering true (files password) ["--config", "roles.yml", "watch"] []).seen
        remembering [(ops, 0), ([.advance 10000], 10000)]
    (∃ s s', built.2 = .ok s ∧ built'.2 = .ok s' ∧
      (s.performAll remembering ops).1.network = ["first", "first", "first", "first"] ∧
      (s'.performAll remembering ops).1.network = ["second", "second", "second", "second"] ∧
      (s'.performAll remembering ops).2 = (s.performAll remembering ops).2) ∧
    seen "second" = seen "first" := by
  intro files settings c x built built' ops seen
  have respects : ∀ op ∈ ops, op.Respects fun n n' : List String => n'.length = n.length := by
    simp [ops, Service.Operation.Respects]
  have hnetwork : built.2.toOption.map (fun s => (s.performAll remembering ops).1.network) =
      some ["first", "first", "first", "first"] := by decide +kernel
  have hnetwork' : built'.2.toOption.map (fun s => (s.performAll remembering ops).1.network) =
      some ["second", "second", "second", "second"] := by decide +kernel
  obtain ⟨s, hs, hfirst⟩ := Option.map_eq_some_iff.mp hnetwork
  obtain ⟨s', hs', hsecond⟩ := Option.map_eq_some_iff.mp hnetwork'
  have start : ([] : List String).length = ([] : List String).length := rfl
  have present : x.trustStorePassword.isSome = c.directory.trustStorePassword.isSome := rfl
  have store : ∀ path, c.directory.trustStore = some path →
      files "second" path = files "first" path := fun path h => nomatch h
  obtain ⟨-, ⟨-, -, halike⟩, hruns⟩ :=
    secrets_reach_only_binds remembering_blind start present store
  obtain ⟨t, ht, hlooks⟩ := halike s (ok_of_toOption hs)
  have hsame : t = s' := Except.ok.inj (ht.symm.trans (ok_of_toOption hs'))
  rw [hsame] at hlooks
  refine ⟨⟨s, s', ok_of_toOption hs, ok_of_toOption hs', hfirst, hsecond,
    (hlooks ops respects).1⟩, ?_⟩
  have hparse : CommandLine.parse ["--config", "roles.yml", "watch"] =
      .ok { task := .watch, configuration := "roles.yml" } :=
    ok_of_toOption (by decide +kernel)
  have hread : (Configuration.read (files "first") "roles.yml").2 = .ok c :=
    ok_of_toOption (by decide +kernel)
  have hread' : (Configuration.read (files "second") "roles.yml").2 = .ok (c.withSecrets x) :=
    ok_of_toOption (by decide +kernel)
  refine hruns true ["--config", "roles.yml", "watch"] _ ?_ ?_
  · intro a ha
    cases Except.ok.inj (hparse.symm.trans ha)
    exact ⟨hread, hread'⟩
  · simp only [List.forall_mem_cons]
    exact ⟨respects, ⟨trivial, fun _ h => nomatch h⟩, fun _ h => nomatch h⟩

end RoleLookup
