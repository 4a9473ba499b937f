import RoleLookup.Program
import RoleLookup.Proofs.Client.Answers
import RoleLookup.Proofs.Provider.Sequential
import RoleLookup.Proofs.Service.CompleteSearch
import RoleLookup.Proofs.Service.Construction
import RoleLookup.Proofs.Text.Lines

/-!
# Roles as they are printed

* `Program.printed`, what a run prints, log lines aside;
* `Service.roles_of_new`, a new service gives the roles that its client gives;
* `run_of_roles`, `run_lookup`, a run that is to look up a user prints the roles that the directory
  gives, and succeeds if and only if it gives some set of them;
* `printed_roles`, the lines of what is printed, and `line_feed_forges_role`, what a line feed in a
  group name does to them.
-/

namespace RoleLookup

open Directory (Client Network)
open Text

/-! ### New services -/

/-- A provider that has nothing to answer from gives the roles that the directory gives. -/
theorem Provider.roles_of_fresh {δ : Type} (directory : Directory δ) {p : Provider} {d : δ}
    {user : String} (unshared : p.joined? user = none)
    (unknown : p.cache.get? p.now user = none)
    (forgotten : ∀ now, p.cache.getFromFallback? now user = none)
    (calm : p.coalescing = true → (directory user d).2.outcome.isCrash = false) (roles : RoleSet) :
    (p.lookup directory user d).2.2 = some (.roles roles) ↔
      (directory user d).2.outcome = .roles roles := by
  obtain ⟨log, hlookup⟩ := lookup_eq_of_miss directory unshared unknown calm
  rw [hlookup, Option.some_inj]
  cases houtcome : (directory user d).2.outcome with
  | roles roles' => simp [View.answer]
  | failed e => simp [View.answer, view, forgotten]
  | crashed message => simp [View.answer]

namespace Service

variable {ν : Type} {c : Configuration} {files : Files} {n : ν} {s : Service ν} {user : String}

theorem directory_calm (net : Network ν) (user : String) (d : Client × ν) :
    (directory net user d).2.outcome.isCrash = false := by
  simp only [directory]
  rcases (d.1.lookup net user d.2).2.2 with _ | e | roles <;> rfl

/-- A new service has a client for its directory that has done nothing, and an empty cache. -/
theorem parts_of_build (h : (build c files n).2 = .ok s) :
    (∃ k, s.client = .ofSettings c.directory k) ∧ s.provider =
      .ofCache c.coalesceMisses ⟨⟨c.cache.maxEntries, some c.cache.timeToLive, []⟩,
        ⟨c.cache.maxEntries, none, []⟩⟩ := by
  cases hsetup : (c.directory.connector files).2 with
  | error e => cases (build_of_refused hsetup).symm.trans h
  | ok k =>
    cases flaw : c.cache.flaw? with
    | some e => cases (build_of_flaw hsetup flaw).symm.trans h
    | none =>
      obtain ⟨t, ht, hclient, -, hprovider⟩ := build_of_connector hsetup flaw
      cases ht.symm.trans h
      exact ⟨⟨k, hclient⟩, hprovider⟩

theorem outcome_lookup (net : Network ν) (user : String) (s : Service ν) :
    (s.lookup net user).2.2 =
      (s.provider.lookup (directory net) user (s.client, s.network)).2.2 := by
  simp only [lookup]

/-- A new service gives the roles that its client gives. -/
theorem roles_of_new {net : Network ν} (spans : List Log.Span) (h : (build c files n).2 = .ok s)
    (roles : RoleSet) : ((s.within spans).lookup net user).2.2 = some (.roles roles) ↔
      (s.client.lookup net user s.network).2.2 = some (.ok roles) := by
  obtain ⟨-, hprovider⟩ := parts_of_build h
  have unshared : (s.within spans).provider.joined? user = none := by
    simp [within, hprovider, Provider.ofCache, Provider.joined?, Provider.inFlight?]
  have unknown :
      (s.within spans).provider.cache.get? (s.within spans).provider.now user = none := by
    simp [within, hprovider, Provider.ofCache, Cache.get?, Region.get?, Region.find?]
  have forgotten (now : Nat) :
      (s.within spans).provider.cache.getFromFallback? now user = none := by
    simp [within, hprovider, Provider.ofCache, Cache.getFromFallback?, Region.get?, Region.find?]
  rw [outcome_lookup, Provider.roles_of_fresh (directory net) unshared unknown forgotten
    (fun _ => directory_calm net user _), outcome_directory_eq_roles]
  simp only [within]

end Service

/-! ### What is printed -/

/-- What is printed, and nothing for a log line. -/
def Output.printed? : Output → Option String
  | .printed s => some s
  | .logged .. => none

namespace Program

/-- All that is printed, log lines aside. -/
def printed (os : List Output) : String := String.join (os.filterMap Output.printed?)

variable {ν : Type} {net : Network ν} {user : String} {roles : RoleSet} {complaint : Option String}

theorem printed_append (os ps : List Output) : printed (os ++ ps) = printed os ++ printed ps := by
  simp [printed]

/-- Log lines are not printed. -/
theorem printed_logged (g : Logging) {as : List Act} (h : ∀ a ∈ as, ∃ e, a = .log e) :
    printed (g.outputs as) = "" := by
  have hnone : (g.outputs as).filterMap Output.printed? = [] := by
    rw [Logging.outputs, List.filterMap_filterMap, List.filterMap_eq_nil_iff]
    intro a ha
    obtain ⟨e, rfl⟩ := h a ha
    cases hview : g.filter.view? e <;> simp [Logging.output?, Output.printed?, hview]
  rw [printed, hnone]
  rfl

theorem printed_events (g : Logging) (es : List Log.Event) : printed (g.events es) = "" :=
  printed_logged g (by simp)

theorem outputs_append (g : Logging) (as bs : List Act) :
    g.outputs (as ++ bs) = g.outputs as ++ g.outputs bs :=
  List.filterMap_append

/-- Whatever the configuration wants of the log, it is only logged. -/
theorem printed_apply (s : Log.Settings) (g : Logging) : printed (g.apply s).2 = "" := by
  unfold Logging.apply
  simp only
  split <;> simp [printed_append, printed_events]

theorem printed_print (g : Logging) (t : String) : printed (g.outputs [.print t]) = t := by
  simp [printed, Logging.outputs, Logging.output?, Output.printed?]

/-! ### Runs that look up a user -/

theorem lookup_of_roles {s : Service ν} (h : (s.lookup net user).2.2 = some (.roles roles)) :
    lookup net user s =
      ((s.lookup net user).2.1.map .log ++ [.print (rolesText roles)], .succeeded) := by
  simp only [lookup, h]

theorem roles_of_succeeded {s : Service ν} (h : (lookup net user s).2 = .succeeded) :
    ∃ roles, (s.lookup net user).2.2 = some (.roles roles) := by
  unfold lookup at h
  cases houtcome : (s.lookup net user).2.2 with
  | none => simp [houtcome] at h
  | some outcome =>
    cases outcome with
    | roles roles => exact ⟨roles, rfl⟩
    | failed e => simp [houtcome] at h
    | crashed message => simp [houtcome] at h

theorem exitCode_eq_zero {r : Result} : r.exitCode = 0 ↔ r = .succeeded := by
  cases r <;> simp [Result.exitCode]

theorem ending_eq_ended {g : Logging} {acts : List Act} {r : Result} {output : List Output}
    (h : (ending g acts r : Run ν) = .ended output 0 complaint) : r = .succeeded := by
  simp only [ending, Run.ended.injEq, exitCode_eq_zero] at h
  exact h.2.1

/-- A task that is to look up a user and finds roles prints them. -/
theorem execute_of_roles {files : Files} {c : Configuration} {n : ν} {s : Service ν}
    (g : Logging) (hbuilt : (Service.build c files n).2 = .ok s)
    (hroles : ((s.within [taskSpan (.lookup user)]).lookup net user).2.2 = some (.roles roles)) :
    ∃ output, execute net g files c (.lookup user) n = .ended output 0 none ∧
      printed output = rolesText roles := by
  simp only [execute, hbuilt, lookup_of_roles hroles]
  refine ⟨_, rfl, ?_⟩
  have hnothing : Result.succeeded.events = [] := rfl
  rw [hnothing, List.map_nil, List.append_nil, ← List.append_assoc, outputs_append,
    printed_append, printed_print, printed_logged, String.empty_append]
  simp only [List.mem_append, List.mem_map]
  rintro a (⟨e, -, rfl⟩ | ⟨e, -, rfl⟩) <;> exact ⟨_, rfl⟩

/-- A task that was to look up a user and succeeds has found roles. -/
theorem execute_lookup {g : Logging} {files : Files} {c : Configuration} {n : ν}
    {output : List Output}
    (h : execute net g files c (.lookup user) n = .ended output 0 complaint) :
    ∃ s roles, (Service.build c files n).2 = .ok s ∧
      ((s.within [taskSpan (.lookup user)]).lookup net user).2.2 = some (.roles roles) := by
  simp only [execute] at h
  split at h
  · cases ending_eq_ended h
  · cases ending_eq_ended h
  · rename_i s hbuilt
    obtain ⟨roles, hroles⟩ := roles_of_succeeded (ending_eq_ended h)
    exact ⟨s, roles, hbuilt, hroles⟩

theorem after_eq_ended {r : Run ν} {before output : List Output} {code : Nat}
    (h : r.after before = .ended output code complaint) :
    ∃ more, r = .ended more code complaint ∧ before ++ more = output := by
  cases r with
  | ended more code' complaint' =>
    cases h
    exact ⟨more, rfl, rfl⟩
  | watching => cases h

variable {colours : Bool} {files : Files} {arguments : List String} {n : ν}
  {a : CommandLine.Arguments} {c : Configuration} {s : Service ν}

/-- A run that is to look up a user prints the roles that the directory gives, and nothing else. -/
theorem run_of_roles (colours : Bool) (ha : CommandLine.parse arguments = .ok a)
    (htask : a.task = .lookup user) (hread : (Configuration.read files a.configuration).2 = .ok c)
    (hbuilt : (Service.build c files n).2 = .ok s)
    (hroles : (s.client.lookup net user s.network).2.2 = some (.ok roles)) :
    ∃ output, run net colours files arguments n = .ended output 0 none ∧
      printed output = rolesText roles := by
  obtain ⟨more, hmore, hprinted⟩ := execute_of_roles
    ((Logging.ofVerbosity colours a.verbosity).apply c.log).1 hbuilt
    ((Service.roles_of_new _ hbuilt roles).2 hroles)
  simp only [run, ha, Configuration.read_eq_of_ok hread, htask, hmore, Run.after]
  refine ⟨_, rfl, ?_⟩
  rw [printed_append, printed_append, printed_append, printed_events, printed_events,
    printed_apply, hprinted]
  simp

/-- A run that was to look up a user and succeeds has had roles of the directory. -/
theorem run_lookup {output : List Output} (ha : CommandLine.parse arguments = .ok a)
    (htask : a.task = .lookup user)
    (h : run net colours files arguments n = .ended output 0 complaint) :
    ∃ c s roles, (Configuration.read files a.configuration).2 = .ok c ∧
      (Service.build c files n).2 = .ok s ∧
      (s.client.lookup net user s.network).2.2 = some (.ok roles) := by
  simp only [run, ha] at h
  split at h
  · cases h
  · rename_i reading c hread
    obtain ⟨more, hmore, -⟩ := after_eq_ended h
    rw [htask] at hmore
    obtain ⟨s, roles, hbuilt, hroles⟩ := execute_lookup hmore
    exact ⟨c, s, roles, by rw [hread], hbuilt, (Service.roles_of_new _ hbuilt roles).1 hroles⟩

/-- **Roles are printed one a line, if they have no line feeds.** A run that was to look up a user
and succeeds prints the roles that the directory gives, which are what the answer to a search for
the user means, in the order of their bytes and each once, with a line feed behind each. So the
lines of what it prints are the roles if and only if no role has a line feed; another line is a part
of a role that has one, and among sets without line feeds no other prints the same. -/
theorem printed_roles {output : List Output} (ha : CommandLine.parse arguments = .ok a)
    (htask : a.task = .lookup user)
    (h : run net colours files arguments n = .ended output 0 complaint) :
    ∃ c s roles, (Configuration.read files a.configuration).2 = .ok c ∧
      (Service.build c files n).2 = .ok s ∧
      (s.client.lookup net user s.network).2.2 = some (.ok roles) ∧
      (∃ k query m, c.directory.query? user = some query ∧
        c.directory.Means user (net.search k query m).2.answer (.ok roles)) ∧
      printed output = rolesText roles ∧
      (roles.toList.map bytes).Pairwise (· < ·) ∧
      lines (printed output) = roles.toList.flatMap (fun r => lines (r ++ "\n")) ∧
      (lines (printed output) = roles.toList ↔ ∀ r ∈ roles, '\n' ∉ r.toList) ∧
      (∀ l ∈ lines (printed output), l ∉ roles →
        ∃ r ∈ roles, '\n' ∈ r.toList ∧ l ∈ lines (r ++ "\n")) ∧
      ∀ other : RoleSet, (∀ r ∈ roles, '\n' ∉ r.toList) → (∀ r ∈ other, '\n' ∉ r.toList) →
        rolesText other = printed output → other = roles := by
  obtain ⟨c, s, roles, hread, hbuilt, hroles⟩ := run_lookup ha htask h
  have hmeans := Directory.Client.lookup_means hroles
  obtain ⟨⟨k, hclient⟩, -⟩ := Service.parts_of_build hbuilt
  rw [hclient] at hmeans
  obtain ⟨output', hrun, hprinted⟩ := run_of_roles colours ha htask hread hbuilt hroles
  cases h.symm.trans hrun
  have hlines : lines (printed output) = roles.toList.flatMap (fun r => lines (r ++ "\n")) := by
    rw [hprinted, rolesText, lines_join]
  have hiff (other : RoleSet) : lines (rolesText other) = other.toList ↔
      ∀ r ∈ other, '\n' ∉ r.toList := lines_join_eq_iff
  refine ⟨c, s, roles, hread, hbuilt, hroles, hmeans, hprinted, ?_, hlines, hprinted ▸ hiff roles,
    ?_, ?_⟩
  · exact List.pairwise_map.2 (roles.ascending.imp bytes_lt_bytes)
  · intro l hl hnot
    rw [hlines] at hl
    obtain ⟨r, hr, hl⟩ := List.mem_flatMap.1 hl
    refine ⟨r, hr, ?_, hl⟩
    by_contra hfeed
    rw [lines_of_notMem hfeed, List.mem_singleton] at hl
    exact hnot (hl ▸ hr)
  · intro other hfeed hfeed' hsame
    apply RoleSet.ext_toList
    rw [← (hiff other).2 hfeed', ← (hiff roles).2 hfeed, hsame, hprinted]

/-- A file that configures a directory. -/
def exampleFiles : Files := fun path =>
  if path = "roles.yml" then .ok (bytes
    "directory:\n  host: ldap\n  port: 389\n  search base: dc=example\n  pool size: 1\n")
  else .error Files.notFound

/-- What that file configures. -/
def exampleConfiguration : Configuration where
  directory := { host := "ldap", port := 389, searchBase := "dc=example", poolSize := 1 }

/-- Looks up a user with that file. -/
def exampleArguments : List String := ["-c", "roles.yml", "lookup", "alice"]

theorem parse_exampleArguments : CommandLine.parse exampleArguments =
    .ok { task := .lookup "alice", configuration := "roles.yml" } :=
  ok_of_toOption (by decide +kernel)

theorem read_exampleFiles : (Configuration.read exampleFiles "roles.yml").2 =
    .ok exampleConfiguration :=
  ok_of_toOption (by decide +kernel)

/-- A directory in which every user is a member of some groups. -/
def memberOf (groups : List String) : Network Unit :=
  Service.answering ⟨[.entry ⟨"uid=alice", [("memberOf", groups.map bytes)]⟩], .ok ⟨0, "", ""⟩⟩

/-- The roles that a directory gives to a user. -/
def given? (net : Network Unit) (user : String) : Option RoleSet :=
  ((Service.build exampleConfiguration exampleFiles ()).2.toOption.bind fun s =>
    (s.client.lookup net user s.network).2.2).bind (·.toOption)

theorem exists_service {net : Network Unit} {user : String} {roles : RoleSet}
    (h : given? net user = some roles) :
    ∃ s, (Service.build exampleConfiguration exampleFiles ()).2 = .ok s ∧
      (s.client.lookup net user s.network).2.2 = some (.ok roles) := by
  obtain ⟨answer, hanswer, hok⟩ := Option.bind_eq_some_iff.1 h
  obtain ⟨s, hs, hlookup⟩ := Option.bind_eq_some_iff.1 hanswer
  exact ⟨s, ok_of_toOption hs, hlookup.trans (congrArg some (ok_of_toOption hok))⟩

theorem run_example {groups : List String} {roles : RoleSet}
    (h : given? (memberOf groups) "alice" = some roles) :
    ∃ output, run (memberOf groups) false exampleFiles exampleArguments () = .ended output 0 none ∧
      printed output = rolesText roles := by
  obtain ⟨s, hbuilt, hroles⟩ := exists_service h
  exact run_of_roles false parse_exampleArguments rfl read_exampleFiles hbuilt hroles

/-- Groups in any order, and one without a common name. -/
theorem printed_roles_alice : ∃ output roles,
    run (memberOf ["cn=devs", "ou=staff", "cn=admin"]) false exampleFiles exampleArguments () =
      .ended output 0 none ∧
    printed output = "admin\ndevs\n" ∧ printed output = rolesText roles ∧
    (lines (printed output) = roles.toList ↔ ∀ r ∈ roles, '\n' ∉ r.toList) := by
  have hgiven : given? (memberOf ["cn=devs", "ou=staff", "cn=admin"]) "alice" =
      some (.ofList ["admin", "devs"]) := by decide +kernel
  obtain ⟨output, hrun, hprinted⟩ := run_example hgiven
  obtain ⟨c, s, roles, -, -, -, -, htext, -, -, hlines, -⟩ :=
    printed_roles parse_exampleArguments rfl hrun
  exact ⟨output, roles, hrun, by rw [hprinted]; decide, htext, hlines⟩

/-- A group with an escaped line feed in its name looks like two groups. -/
theorem line_feed_forges_role : ∃ output output' roles roles',
    run (memberOf ["cn=admin\\0Adevs"]) false exampleFiles exampleArguments () =
      .ended output 0 none ∧
    given? (memberOf ["cn=admin\\0Adevs"]) "alice" = some roles ∧
    run (memberOf ["cn=admin", "cn=devs"]) false exampleFiles exampleArguments () =
      .ended output' 0 none ∧
    given? (memberOf ["cn=admin", "cn=devs"]) "alice" = some roles' ∧
    lines (printed output) ≠ roles.toList ∧ "devs" ∈ lines (printed output) ∧ "devs" ∉ roles ∧
    roles ≠ roles' ∧ printed output = printed output' := by
  have hforged : given? (memberOf ["cn=admin\\0Adevs"]) "alice" =
      some (.ofList ["admin\ndevs"]) := by decide +kernel
  have hgiven : given? (memberOf ["cn=admin", "cn=devs"]) "alice" =
      some (.ofList ["admin", "devs"]) := by decide +kernel
  obtain ⟨output, hrun, hprinted⟩ := run_example hforged
  obtain ⟨output', hrun', hprinted'⟩ := run_example hgiven
  refine ⟨output, output', _, _, hrun, hforged, hrun', hgiven, ?_⟩
  rw [hprinted, hprinted']
  exact ⟨by decide, by decide, by simp, by decide, by decide⟩

end Program

end RoleLookup
