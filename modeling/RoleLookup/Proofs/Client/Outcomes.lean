import RoleLookup.Proofs.Client.Searches

/-!
# What lookups report

* `FirstBindFailed`, the bind of the first connection that an acquire opened has failed in a run,
  and `candid_run`, nothing else makes an acquire say that the pool could not be opened;
* `Excused`, an error that a lookup without a connection may report;
* `Means`, what an answer to the search for a user means, with `verdict_means`;
* `Contract`, what a lookup has sent so far and what becomes of it, with `contract_run`;
* `lookup_eq_run`, one lookup when nobody else acts is a run.
-/

namespace RoleLookup.Directory

/-! ### What an answer means -/

/-- The entries that a search finds. References do not count. -/
def SearchAnswer.found (a : SearchAnswer) : List RawEntry := a.items.filterMap SearchItem.entry?

/-- It ends with the code of success. -/
def SearchAnswer.IsComplete (a : SearchAnswer) : Prop := ∃ r, a.ending = .ok r ∧ r.code = 0

/-- What an answer to the search for a user means. -/
inductive Settings.Means (s : Settings) (user : String) (answer : SearchAnswer) :
    Except LookupError RoleSet → Prop
  | nobody (complete : answer.IsComplete) (h : answer.found = []) : Means s user answer (.ok .empty)
  | one {e : RawEntry} (complete : answer.IsComplete) (h : answer.found = [e]) :
      Means s user answer (.ok (e.decode.roles s.groupAttribute))
  | several (complete : answer.IsComplete) (h : 2 ≤ answer.found.length)
      (lenient : s.strictAmbiguity = false) : Means s user answer (.ok .empty)
  | ambiguous (complete : answer.IsComplete) (h : 2 ≤ answer.found.length)
      (strict : s.strictAmbiguity = true) :
      Means s user answer (.error (.ambiguousUser user answer.found.length))
  /-- Whatever was found before it ended. -/
  | incomplete {e : LookupError} (h : ¬ answer.IsComplete) (he : e.isUnavailable = true) :
      Means s user answer (.error e)

theorem SearchAnswer.entries_of_complete {a : SearchAnswer} (h : a.IsComplete) :
    a.entries = .ok a.found := by
  obtain ⟨r, hr, hcode⟩ := h
  simp [entries, hr, hcode, found]

theorem SearchAnswer.entries_of_not_complete {a : SearchAnswer} (h : ¬ a.IsComplete) :
    ∃ cause, a.entries = .error cause := by
  unfold entries
  split
  · rename_i cause _
    exact ⟨cause, rfl⟩
  · rename_i r hr
    rw [if_neg fun hcode => h ⟨r, hr, hcode⟩]
    exact ⟨_, rfl⟩

theorem Settings.verdict_means (s : Settings) (user : String) (answer : SearchAnswer) :
    s.Means user answer (s.verdict user answer) := by
  by_cases complete : answer.IsComplete
  · have hverdict : s.verdict user answer = s.rolesOf user (answer.found.map RawEntry.decode) := by
      simp [verdict, SearchAnswer.entries_of_complete complete]
    rw [hverdict]
    rcases h : answer.found with _ | ⟨e, _ | ⟨e', es⟩⟩
    · exact .nobody complete h
    · exact .one complete h
    · have hlength : 2 ≤ answer.found.length := by simp [h]
      cases hs : s.strictAmbiguity with
      | false => simpa [rolesOf, hs] using Means.several complete hlength hs
      | true => simpa [rolesOf, hs, h] using Means.ambiguous complete hlength hs
  · obtain ⟨cause, hcause⟩ := SearchAnswer.entries_of_not_complete complete
    have hverdict : s.verdict user answer = .error (Error.search cause).toLookupError := by
      simp [verdict, hcause]
    rw [hverdict]
    exact .incomplete complete rfl

theorem Settings.Means.complete {s : Settings} {user : String} {answer : SearchAnswer}
    {roles : RoleSet} (h : s.Means user answer (.ok roles)) : answer.IsComplete := by
  cases h <;> assumption

theorem Settings.Means.error_of_not_complete {s : Settings} {user : String} {answer : SearchAnswer}
    {o : Except LookupError RoleSet} (h : s.Means user answer o) (broken : ¬ answer.IsComplete) :
    ∃ e, o = .error e ∧ e.isUnavailable = true := by
  cases h with
  | incomplete _ he => exact ⟨_, rfl, he⟩
  | nobody complete | one complete | several complete | ambiguous complete =>
    exact absurd complete broken

namespace Client

/-! ### Failures to get a connection -/

variable {c d : Client} {s : Step} {ss : List Step} {a : Nat}

theorem terms_step (c : Client) (s : Step) : (c.step s).pool.terms = c.pool.terms :=
  (step_fires c s).pool_induction (P := fun p => p.terms = c.pool.terms)
    (fun p t _ hp => (Pool.terms_step p t).trans hp) (fun t _ => Pool.terms_step c.pool t)
    (fun _ _ _ hp => hp) rfl

theorem connector_run (c : Client) (ss : List Step) :
    (c.run ss).pool.connector = c.pool.connector := by
  have hterms : (c.run ss).pool.terms = c.pool.terms :=
    run_induction (P := fun d => d.pool.terms = c.pool.terms)
      (fun d s h => (terms_step d s).trans h) rfl ss
  exact congrArg Pool.Terms.connector hterms

/-- In a run, the bind of the first connection that an acquire opened has failed. -/
def FirstBindFailed (c : Client) (ss : List Step) (a : Nat) (cause : Error) : Prop :=
  ∃ before after k answer, ss = before ++ .pool (.bound a answer) :: after ∧
    (c.run before).pool.phase? a = some (.opening (.initial []) (.binding k)) ∧
    bindError? c.pool.connector.bindDn answer = some cause

theorem FirstBindFailed.concat {cause : Error} (h : c.FirstBindFailed ss a cause) (s : Step) :
    c.FirstBindFailed (ss ++ [s]) a cause := by
  obtain ⟨before, after, k, answer, rfl, ha, bad⟩ := h
  exact ⟨before, after ++ [s], k, answer, by simp, ha, bad⟩

theorem candid_run (settings : Settings) (connector : Connector) (ss : List Step) :
    let c := ofSettings settings connector
    (c.run ss).pool.Candid (c.FirstBindFailed ss) := by
  intro c
  induction ss using List.reverseRecOn with
  | nil => exact Pool.candid_ofSettings settings connector _
  | append_singleton ss s ih =>
    have ih := ih.mono fun h => h.concat s
    rw [run_concat]
    refine (step_fires (c.run ss) s).pool_induction
      (P := fun p => p.Candid (c.FirstBindFailed (ss ++ [s]))) ?_ ?_ ?_ ih
    · intro p t ht hp
      exact hp.step t fun hbound => absurd hbound (ht _ _)
    · rintro t rfl
      refine ih.step t fun hbound ha bad => ?_
      subst hbound
      rw [connector_run] at bad
      exact ⟨ss, [], _, _, rfl, ha, bad⟩
    · intro p b events hp
      exact ⟨hp.1, hp.2⟩

/-- An error says that the directory cannot be asked, or that the bind of the first connection of an
acquire has failed. -/
def Excused (c : Client) (ss : List Step) (a : Nat) (e : LookupError) : Prop :=
  e.isUnavailable = true ∨ ∃ cause, e = (Error.poolInitialisation cause).toLookupError ∧
    cause.isBindFailure = true ∧ c.FirstBindFailed ss a cause

theorem excused_of_error {settings : Settings} {connector : Connector} {e : Error}
    (he : ((ofSettings settings connector).run ss).pool.error? a = some e) :
    (ofSettings settings connector).Excused ss a e.toLookupError := by
  rw [Pool.error?_eq_some] at he
  cases e with
  | poolInitialisation cause =>
    exact .inr ⟨cause, rfl, (candid_run settings connector ss).failed he⟩
  | _ => exact .inl rfl

/-! ### The contract of a lookup -/

/-- What a lookup of a run has sent, how it has ended or what it goes on with. -/
structure Contract (c : Client) (ss : List Step) (l : Nat) (j : Lookup) : Prop where
  /-- It never sends more than one search. -/
  few : (c.searchesFor l ss).length ≤ 1
  /-- It never sends one without a connection. -/
  had : c.searchesFor l ss ≠ [] → c.HadConnection j.acquire ss
  /-- If it got no connection, its error is that of the acquire. -/
  without : ∀ o, j.phase = .finished o → ¬ c.HadConnection j.acquire ss →
    ∃ e, o = .error e ∧ c.Excused ss j.acquire e
  /-- If it got one, it has sent one search over it and says what the answer means. -/
  answered : ∀ o query, j.phase = .finished o → c.HadConnection j.acquire ss →
    c.settings.query? j.user = some query → ∃ k answer, c.searchesFor l ss = [(k, query)] ∧
      c.Heard l ss (k, query) answer ∧ c.settings.Means j.user answer o
  /-- A filter that cannot be read counts as a search that failed. -/
  unasked : ∀ o, j.phase = .finished o → c.settings.query? j.user = none →
    c.searchesFor l ss = [] ∧ ∃ e, o = .error e ∧ c.Excused ss j.acquire e
  /-- It sends its search over the connection that it has. -/
  asks : ∀ k query, j.phase = .acquiring → (c.run ss).pool.held? j.acquire = some k →
    c.settings.query? j.user = some query →
    ((c.run ss).step (.search l)).lookups[l]? = some { j with phase := .searching } ∧
      c.searchesFor l (ss ++ [.search l]) = [(k, query)]
  /-- Any answer ends it. -/
  hears : ∀ answer, j.phase = .searching → ∃ o, c.settings.Means j.user answer o ∧
    ((c.run ss).step (.answer l answer)).lookups[l]? = some { j with phase := .finished o }
  /-- So does an acquire that fails. -/
  fails : ∀ e, j.phase = .acquiring → (c.run ss).pool.error? j.acquire = some e →
    ((c.run ss).step (.fail l)).lookups[l]? =
      some { j with phase := .finished (.error e.toLookupError) }

theorem contract_acquiring {l : Nat} {user : String}
    (hl : (c.run ss).lookups[l]? = some ⟨user, a, .acquiring⟩)
    (silent : c.searchesFor l ss = []) : c.Contract ss l ⟨user, a, .acquiring⟩ where
  few := by simp [silent]
  had h := absurd silent h
  without := nofun
  answered := nofun
  unasked := nofun
  asks k query _ held hq := by
    rw [← settings_run c ss] at hq
    obtain ⟨events, hstep⟩ := step_search hl held hq
    constructor
    · rw [hstep, getElem?_setPhase]
      change Option.map _ ((c.run ss).lookups[l]?) = _
      simp [hl]
    · rw [searchesFor_concat, silent, sentIn_search hl held hq, List.nil_append]
  hears := nofun
  fails e _ he := by simp [step, fail, hl, he, getElem?_setPhase]

theorem contract_searching {l k : Nat} {user : String} {query : Query}
    (hl : (c.run ss).lookups[l]? = some ⟨user, a, .searching⟩)
    (held : (c.run ss).pool.held? a = some k) (one : c.searchesFor l ss = [(k, query)]) :
    c.Contract ss l ⟨user, a, .searching⟩ where
  few := by simp [one]
  had _ := hadConnection_of_held held
  without := nofun
  answered := nofun
  unasked := nofun
  asks := nofun
  hears answer _ := by
    refine ⟨_, c.settings.verdict_means user answer, ?_⟩
    rw [lookup_answer hl, settings_run]
  fails := nofun

theorem contract_finished {l : Nat} {user : String} {o : Except LookupError RoleSet}
    (h : Ended c ss l user a o)
    (excused : ∀ e, (c.run ss).pool.error? a = some e → c.Excused ss a e.toLookupError) :
    c.Contract ss l ⟨user, a, .finished o⟩ := by
  cases h with
  | @unconnected e never silent he =>
    exact {
      few := by simp [silent]
      had := fun h => absurd silent h
      without := by
        rintro _ ⟨⟩ -
        exact ⟨_, rfl, excused e he⟩
      answered := fun _ _ _ had => absurd had never
      unasked := by
        rintro _ ⟨⟩ -
        exact ⟨silent, _, rfl, excused e he⟩
      asks := nofun
      hears := nofun
      fails := nofun }
  | unasked had silent hq =>
    exact {
      few := by simp [silent]
      had := fun h => absurd silent h
      without := fun _ _ never => absurd had never
      answered := fun _ _ _ _ hquery => by
        rw [hq] at hquery
        cases hquery
      unasked := by
        rintro _ ⟨⟩ -
        exact ⟨silent, _, rfl, .inl rfl⟩
      asks := nofun
      hears := nofun
      fails := nofun }
  | @answered k query answer had one hq heard =>
    exact {
      few := by simp [one]
      had := fun _ => had
      without := fun _ _ never => absurd had never
      answered := by
        rintro _ query' ⟨⟩ - hquery
        rw [hq] at hquery
        cases hquery
        exact ⟨k, answer, one, heard, c.settings.verdict_means user answer⟩
      unasked := fun _ _ hquery => by
        rw [hq] at hquery
        cases hquery
      asks := nofun
      hears := nofun
      fails := nofun }

theorem contract_run (settings : Settings) (connector : Connector) (ss : List Step) {l : Nat}
    {j : Lookup} (hl : ((ofSettings settings connector).run ss).lookups[l]? = some j) :
    (ofSettings settings connector).Contract ss l j := by
  cases tale_run settings connector ss hl with
  | acquiring silent => exact contract_acquiring hl silent
  | searching held one => exact contract_searching hl held one
  | finished h => exact contract_finished h fun e he => excused_of_error he
  | abandoned few had => exact ⟨few, had, nofun, nofun, nofun, nofun, nofun, nofun⟩

/-! ### One lookup at a time -/

variable {ν : Type}

theorem acquire_eq_run (net : Network ν) (a : Nat) (c : Client) (n : ν) :
    ∃ ts, (c.acquire net a n).1 = c.run ts :=
  ⟨_, rfl⟩

/-- One lookup when nobody else acts is a run. -/
theorem lookup_eq_run (net : Network ν) (user : String) (c : Client) (n : ν) :
    ∃ ts, (c.lookup net user n).1 = c.run ts ∧
      (c.lookup net user n).2.2 = (c.run ts).outcome? c.lookups.length := by
  obtain ⟨ts, hts⟩ := acquire_eq_run net c.pool.acquires.length (c.step (.lookup user)) n
  rw [← run_cons] at hts
  simp only [lookup, hts, ← run_append]
  split
  · exact ⟨_, rfl, rfl⟩
  · exact ⟨_, rfl, rfl⟩

theorem lookups_of_outcome? {l : Nat} {o : Except LookupError RoleSet}
    (h : c.outcome? l = some o) : ∃ user a, c.lookups[l]? = some ⟨user, a, .finished o⟩ := by
  unfold outcome? at h
  split at h
  · rename_i hl
    cases h
    exact ⟨_, _, hl⟩
  · cases h

end Client
end RoleLookup.Directory
