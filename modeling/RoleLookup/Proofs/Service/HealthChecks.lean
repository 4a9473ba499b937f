import RoleLookup.Proofs.Client.OneCheck
import RoleLookup.Service

/-!
# Health checks are truthful

A check says whether the directory can be reached at the moment in which it ends, and changes
nothing that lookups depend on.

* `Examined`, what checks that follow one another tell and leave, with `examined_executeAll`;
* `health_checks_are_truthful`, for every run of the client and in front of any cache.
-/

namespace RoleLookup

open Directory (Client Network Connector Pool)

namespace Directory.Client

variable {c d : Client} {statements : List Health.Statement}

/-- What checks that follow one another tell and leave: each statement is that of one of the checks
that have come, in their order. -/
structure Examined (c d : Client) (statements : List Health.Statement) : Prop where
  told : ∃ ts, d = c.run ts ∧ ∀ i st, statements[i]? = some st →
    c.Told ts (c.checks.length + i) st.record
  undisturbed : c.Undisturbed d
  settled : d.Settled

theorem Examined.nil (settled : c.Settled) : c.Examined c [] :=
  ⟨⟨[], rfl, nofun⟩, .refl c, settled⟩

theorem Examined.cons {e : Client} {name : String} {record : Health.Record}
    (first : c.Checked d record) (rest : d.Examined e statements) :
    c.Examined e (⟨name, record⟩ :: statements) := by
  obtain ⟨ts, rfl, htold⟩ := first.told
  obtain ⟨us, rfl, hrest⟩ := rest.told
  refine ⟨⟨ts ++ us, (run_append c ts us).symm, fun i st hst => ?_⟩,
    first.undisturbed.trans rest.undisturbed, rest.settled⟩
  cases i with
  | zero =>
    cases hst
    exact htold.append us
  | succ i =>
    have hcheck := (hrest i st hst).of_run first.undisturbed
    rw [first.count, Nat.add_right_comm] at hcheck
    exact hcheck

end Directory.Client

namespace Service

open Directory.Client (ofSettings)

variable {ν : Type}

/-- Checks of the connection, one after another. -/
theorem examined_executeAll {c : Client} (balanced : c.pool.Balanced) (settled : c.Settled)
    (net : Network ν) {checks : List (Health.Check (Client × ν))}
    (h : ∀ k ∈ checks, ∃ name spans, k = connectionCheck net name spans) (n : ν) :
    let ((d, _), _, statements) := Health.executeAll checks (c, n)
    statements.map (·.name) = checks.map (·.name) ∧ c.Examined d statements := by
  induction checks generalizing c n with
  | nil => exact ⟨rfl, .nil settled⟩
  | cons k ks ih =>
    -- What one check leaves has all that the next one asks for.
    obtain ⟨⟨name, spans, rfl⟩, hks⟩ := List.forall_mem_cons.1 h
    obtain ⟨record, hrecord, first⟩ := Directory.Client.check_ends balanced settled net spans n
    rcases hcheck : c.check net spans n with ⟨d, m, r⟩
    rw [hcheck] at hrecord first
    obtain rfl : r = some record := hrecord
    have hd : d.pool.Balanced := by
      obtain ⟨ts, rfl, -⟩ := first.told
      exact Directory.Client.balanced_of_run balanced ts
    obtain ⟨hnames, rest⟩ := ih hd first.settled hks m
    simp only [Health.executeAll, Health.Check.execute, connectionCheck, hcheck]
    exact ⟨congrArg (name :: ·) hnames, .cons first rest⟩

/-- **Health checks are truthful.** In every run of the client, the record of a check is good news
just if its acquire held a connection that could be used in the moment in which the check ended, and
else tells the error; the acquire has no permit any more. Enough turns bring every check to such a
record, whatever others do meanwhile, and as long as it needs one it has one or waits for another
that opens the pool. It sends no search. Checks one after another, in front of any cache, have such
a record each, which blames the pool only if others have all permits; they leave lookups, permits,
cached answers and calls in flight as they were, and do not depend on them. -/
theorem health_checks_are_truthful (settings : Directory.Settings) (connector : Connector)
    (ss : List Client.Step) :
    let c₀ := ofSettings settings connector
    let c := c₀.run ss
    (∀ h a record, c.checks[h]? = some ⟨a, some record⟩ →
      (∃ before after, ss = before ++ .conclude h :: after ∧
        let p := (c₀.run before).pool
        p.Verdict a record ∧ p.connector = connector ∧
        (record.healthy = true ↔ ∃ k, p.held? a = some k ∧ p.isAlive k = true)) ∧
      ∃ phase, c.pool.phase? a = some phase ∧ phase.permits = 0) ∧
    (∀ h a, c.checks[h]? = some ⟨a, none⟩ →
      (c.pool.ahead a ≠ 0 → ∃ b t, c.isTurn b t = true ∧ (b = a ∨ c.pool.Waits a)) ∧
      ∀ more, c.pool.ahead a + more.countP Client.Step.returns ≤ c.turns a more →
        ∃ record, ((c.run more).conclude h).record? h = some record) ∧
    (∀ a h t, c.IsOfCheck a h t →
      (c.step t).pool.searches = c.pool.searches ∧ (c.step t).lookups = c.lookups) ∧
    ∀ (ν : Type) (net : Network ν) (s : Service ν) (checks : List (Health.Check (Client × ν))),
      s.client = c → c.Settled →
      (∀ k ∈ checks, k = providerCheck net ∨ k = s.directoryCheck net) →
      let s' := (s.runChecks checks).1
      let statements := (s.runChecks checks).2.2
      statements.map (·.name) = checks.map (·.name) ∧ c.Examined s'.client statements ∧
      s'.client.pool.permits + c.pool.total Pool.Phase.permits = s'.client.pool.limit ∧
      s'.provider = { s.provider with now := s'.provider.now } ∧
      ∀ provider : Provider, ({ s with provider }.runChecks checks).2.2 = statements := by
  intro c₀ c
  have balanced : c.pool.Balanced := Directory.Client.balanced_run settings connector ss
  have linked : c.Linked := Directory.Client.linked_run settings connector ss
  have sound : c.Sound := Directory.Client.sound_run settings connector ss
  refine ⟨fun h a record hh => ⟨?_, ?_⟩, fun h a hh => ⟨?_, fun more enough => ?_⟩, ?_, ?_⟩
  · obtain ⟨before, after, hss, verdict⟩ :=
      Directory.Client.concluded_run settings connector ss hh
    exact ⟨before, after, hss, verdict, Directory.Client.connector_run c₀ before,
      verdict.healthy_iff⟩
  · obtain ⟨phase, ha, suits⟩ := sound h _ hh
    exact ⟨phase, ha, suits.permits⟩
  · exact Directory.Client.exists_turn_of_ahead
  · refine Directory.Client.record_of_turns balanced linked ?_ hh enough
    rw [← Directory.Client.run_append]
    exact Directory.Client.sound_run settings connector (ss ++ more)
  · exact fun a h t => Directory.Client.quiet_of_isOfCheck
  · intro ν net s checks hs settled hchecks s' statements
    have hkinds : ∀ k ∈ checks, ∃ name spans, k = connectionCheck net name spans := by
      intro k hk
      rcases hchecks k hk with rfl | rfl
      · exact ⟨_, _, rfl⟩
      · exact ⟨_, _, rfl⟩
    obtain ⟨hnames, examined⟩ :
        statements.map (·.name) = checks.map (·.name) ∧ c.Examined s'.client statements := by
      have h := examined_executeAll balanced settled net hkinds s.network
      rw [← hs] at h ⊢
      exact h
    have kept : s'.client.pool.permits + c.pool.total Pool.Phase.permits =
        s'.client.pool.limit := by
      obtain ⟨ts, hts, -⟩ := examined.told
      have hbalanced : s'.client.pool.Balanced := by
        rw [hts]
        exact Directory.Client.balanced_of_run balanced ts
      rw [← examined.undisturbed.permits]
      exact hbalanced.permits
    exact ⟨hnames, examined, kept, rfl, fun provider => rfl⟩

/-- No connection can be made; a check is over and another has started. Both checks of a service are
bad news. -/
theorem health_checks_are_truthful_outage :
    let settings : Directory.Settings :=
      { host := "ldap", port := 389, searchBase := "dc=example", poolSize := 1 }
    let connector : Connector :=
      ⟨⟨"ldap", none, "", none, none⟩, false, 3000, 3000, none, "cn=reader", ""⟩
    let net := Network.withoutRoute .timeout
    let c₀ := ofSettings settings connector
    let ss : List Client.Step := [.check [], .pool (.enter 0),
      .pool (.connected 0 (.error .timeout)), .conclude 0]
    let started : List Client.Step := ss ++ [.check []]
    let c := c₀.run ss
    let cache : Cache := ⟨⟨1, some 100, []⟩, ⟨1, none, []⟩⟩
    let s : Service Unit := ⟨"ldap", {}, .ofCache true cache, c, ()⟩
    let s' := (s.runChecks (s.checks net)).1
    let statements := (s.runChecks (s.checks net)).2.2
    (∃ record, c.checks[0]? = some ⟨0, some record⟩ ∧ record.healthy = false ∧
      ∃ before after, ss = before ++ .conclude 0 :: after ∧
        (c₀.run before).pool.Verdict 0 record) ∧
    ((c₀.run started).checks[1]? = some ⟨1, none⟩ ∧ (c₀.run started).pool.ahead 1 ≠ 0 ∧
      ∃ b t, (c₀.run started).isTurn b t = true ∧ (b = 1 ∨ (c₀.run started).pool.Waits 1)) ∧
    c.Settled ∧ statements.map (·.name) = ["roles provider", "ldap"] ∧
    statements.map (·.record.healthy) = [false, false] ∧ c.Examined s'.client statements := by
  intro settings connector net c₀ ss started c cache s s' statements
  have truthful := health_checks_are_truthful settings connector ss
  have hh : ∃ record, c.checks[0]? = some ⟨0, some record⟩ ∧ record.healthy = false := ⟨_, rfl, rfl⟩
  obtain ⟨record, hh, bad⟩ := hh
  obtain ⟨⟨before, after, hss, verdict, -⟩, -⟩ := truthful.1 0 0 record hh
  have hstarted : (c₀.run started).checks[1]? = some ⟨1, none⟩ := rfl
  have hahead : (c₀.run started).pool.ahead 1 ≠ 0 := by decide
  have hbad : statements.map (·.record.healthy) = [false, false] := by decide +kernel
  have settled : c.Settled := .inr rfl
  obtain ⟨hnames, examined, -⟩ := truthful.2.2.2 Unit net s (s.checks net) rfl settled (by
    intro k hk
    simpa [checks] using hk)
  exact ⟨⟨record, hh, bad, before, after, hss, verdict⟩,
    ⟨hstarted, hahead,
      ((health_checks_are_truthful settings connector started).2.1 1 1 hstarted).1 hahead⟩,
    settled, hnames, hbad, examined⟩

end Service
end RoleLookup
