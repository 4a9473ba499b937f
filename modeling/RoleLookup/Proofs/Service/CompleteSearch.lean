import RoleLookup.Proofs.Client.Outcomes
import RoleLookup.Proofs.Directory.UserFilter
import RoleLookup.Proofs.Provider.FailedCalls
import RoleLookup.Service

/-!
# Roles come from complete searches

What a search brings in counts only if the search ends with success, for the lookup that sent it
and for the cache in front of it.

* `Completed`, a lookup has had a complete answer to its only search, and `Contract.completed`, one
  that ends with roles has;
* `completed_of_cache_write`, when nobody else acts, the cache changes only after such an answer;
* `not_roles_of_error`, a call that the client answers with an error never gives roles;
* `only_complete_searches_give_roles`, both, with what each lookup sends and reports.
-/

namespace RoleLookup

open Directory (Client Network Connector Query SearchAnswer)

namespace Directory.Client

variable {c : Client} {ss : List Step} {l : Nat} {j : Lookup}

/-- A lookup has sent one search, and the answer to it is complete. -/
def Completed (c : Client) (ss : List Step) (l : Nat) : Prop :=
  ∃ k query answer, c.searchesFor l ss = [(k, query)] ∧ c.Heard l ss (k, query) answer ∧
    answer.IsComplete

theorem Contract.completed {roles : RoleSet} (h : c.Contract ss l j)
    (hj : j.phase = .finished (.ok roles)) : c.Completed ss l := by
  by_cases had : c.HadConnection j.acquire ss
  · cases hq : c.settings.query? j.user with
    | none =>
      obtain ⟨-, e, he, -⟩ := h.unasked _ hj hq
      cases he
    | some query =>
      obtain ⟨k, answer, one, heard, means⟩ := h.answered _ query hj had hq
      exact ⟨k, query, answer, one, heard, means.complete⟩
  · obtain ⟨e, he, -⟩ := h.without _ hj had
    cases he

/-- A lookup that has ended has sent as many searches as it had connections. -/
theorem Contract.count {o : Except LookupError RoleSet} {query : Query} (h : c.Contract ss l j)
    (hj : j.phase = .finished o) (hq : c.settings.query? j.user = some query) :
    (c.HadConnection j.acquire ss → (c.searchesFor l ss).length = 1) ∧
      (¬ c.HadConnection j.acquire ss → c.searchesFor l ss = []) := by
  constructor
  · intro had
    obtain ⟨k, answer, one, -⟩ := h.answered o query hj had hq
    rw [one, List.length_singleton]
  · intro never
    by_contra hne
    exact never (h.had hne)

end Directory.Client

namespace Service

open Directory.Client (ofSettings)

variable {ν : Type}

/-- The provider is given roles if and only if the client ends with them. -/
theorem outcome_directory_eq_roles (net : Network ν) (user : String) (c : Client) (n : ν)
    (roles : RoleSet) : (directory net user (c, n)).2.outcome = .roles roles ↔
      (c.lookup net user n).2.2 = some (.ok roles) := by
  simp only [directory]
  generalize (c.lookup net user n).2.2 = outcome
  rcases outcome with _ | e | served
  · simp
  · simp [outcomeOf]
  · simp [outcomeOf]

/-- When nobody else acts, the cache changes only after a complete answer to the client. -/
theorem completed_of_cache_write (settings : Directory.Settings) (connector : Connector)
    (ss : List Client.Step) (net : Network ν) (n : ν) {p : Provider} {user : String}
    (unshared : p.joined? user = none) :
    let c₀ := ofSettings settings connector
    let c := c₀.run ss
    (p.lookup (directory net) user (c, n)).1.cache ≠ p.cache →
      ∃ ts, (c.lookup net user n).1 = c.run ts ∧ c₀.Completed (ss ++ ts) c.lookups.length := by
  intro c₀ c hw
  obtain ⟨roles, hroles⟩ := Provider.roles_of_lookup_write (directory net) unshared hw
  obtain ⟨ts, hts, houtcome⟩ := Directory.Client.lookup_eq_run net user c n
  rw [(outcome_directory_eq_roles net user c n roles).1 hroles, ← Directory.Client.run_append] at houtcome
  obtain ⟨v, a, hl⟩ := Directory.Client.lookups_of_outcome? houtcome.symm
  exact ⟨ts, hts, (Directory.Client.contract_run settings connector (ss ++ ts) hl).completed rfl⟩

/-- A call that the client answers with an error never gives roles. -/
theorem not_roles_of_error {p : Provider} {k : Nat} {user : String} {e : LookupError}
    {t : Provider.Step} (hk : p.calls[k]? = some ⟨user, .running⟩)
    (ht : t = .answer k (outcomeOf (.error e)) ∨ t = .finish k (outcomeOf (.error e)))
    (qs : List Provider.Step) (v : String) (roles : RoleSet) :
    ((p.step t).run qs).calls[k]? ≠ some ⟨v, .ended (.roles roles)⟩ := by
  obtain ⟨w, hw | hw⟩ := Provider.fails_run (Provider.fails_of_answer hk ht) qs
  · simp [hw]
  · simp [hw]

/-- **Only complete searches give roles.** In every run of the client, a lookup that had a
connection sends one search and says what the answer means: roles only if the answer is complete,
and else an error, whatever was found before; a lookup that had none sends nothing and reports why.
The cache in front changes for a lookup only if its call has given roles, which it never does after
an error of the client. -/
theorem only_complete_searches_give_roles (settings : Directory.Settings) (connector : Connector)
    (ss : List Client.Step) :
    let c₀ := ofSettings settings connector
    let c := c₀.run ss
    (∀ l j, c.lookups[l]? = some j → c₀.Contract ss l j ∧
      (∀ roles, j.phase = .finished (.ok roles) → c₀.Completed ss l) ∧
      (Directory.IsDescription settings.userIdAttribute.toList → ∀ o, j.phase = .finished o →
        (c₀.HadConnection j.acquire ss → (c₀.searchesFor l ss).length = 1) ∧
        (¬ c₀.HadConnection j.acquire ss → c₀.searchesFor l ss = []))) ∧
    (∀ (ν : Type) (net : Network ν) (n : ν) (p : Provider) (user : String),
      p.joined? user = none → (p.lookup (directory net) user (c, n)).1.cache ≠ p.cache →
      ∃ ts, (c.lookup net user n).1 = c.run ts ∧ c₀.Completed (ss ++ ts) c.lookups.length) ∧
    ∀ (coalescing : Bool) (cache : Cache) (ps : List Provider.Step),
      let p := (Provider.ofCache coalescing cache).run ps
      (∀ t m, t.lookup? = some m → (p.step t).cache ≠ p.cache →
        ∃ k user roles, p.call? m = some k ∧ p.calls[k]? = some ⟨user, .ended (.roles roles)⟩) ∧
      ∀ k user e t, p.calls[k]? = some ⟨user, .running⟩ →
        (t = .answer k (outcomeOf (.error e)) ∨ t = .finish k (outcomeOf (.error e))) →
        ∀ qs v roles, ((p.step t).run qs).calls[k]? ≠ some ⟨v, .ended (.roles roles)⟩ := by
  intro c₀ c
  refine ⟨fun l j hl => ?_, ?_, ?_⟩
  · have contract := Directory.Client.contract_run settings connector ss hl
    refine ⟨contract, fun roles hj => contract.completed hj, fun hname o hj => ?_⟩
    exact contract.count hj (settings.query?_eq hname j.user)
  · intro ν net n p user unshared hw
    exact completed_of_cache_write settings connector ss net n unshared hw
  · intro coalescing cache ps p
    have linked : p.Linked := (Provider.linked_ofCache coalescing cache).run ps
    constructor
    · intro t m ht hw
      exact Provider.roles_of_write linked ht hw
    · intro k user e t hk ht qs v roles
      exact not_roles_of_error hk ht qs v roles

/-- A network on which every search is answered alike. -/
def answering (answer : SearchAnswer) : Network Unit where
  connect _ n := (n, { answer := .ok () })
  bind _ _ _ n := (n, { answer := .error .closed })
  search _ _ n := (n, { answer })

/-- The directory names one entry for a user and another directory, and then falls silent; it also
answers in full. -/
theorem only_complete_searches_give_roles_alice :
    let settings : Directory.Settings :=
      { host := "ldap", port := 389, searchBase := "dc=example", poolSize := 1 }
    let connector : Connector :=
      ⟨⟨"ldap", none, "", none, none⟩, false, 3000, 3000, none, "", ""⟩
    let broken : SearchAnswer :=
      ⟨[.entry ⟨"uid=alice", []⟩, .reference ["ldap://other"]], .error .timeout⟩
    let full : SearchAnswer := ⟨[.entry ⟨"uid=alice", []⟩], .ok ⟨0, "", ""⟩⟩
    let c₀ := ofSettings settings connector
    let ss : List Client.Step := [.lookup "alice", .pool (.enter 0), .pool (.connected 0 (.ok ())),
      .pool (.grant 0), .pool (.take 0)]
    let asked : List Client.Step := ss ++ [.search 0]
    let told : List Client.Step := asked ++ [.answer 0 broken]
    let cache : Cache := ⟨⟨1, some 100, []⟩, ⟨1, none, []⟩⟩
    let fresh := Provider.ofCache true cache
    let p := fresh.run [.start "alice", .check 0, .ask 0]
    let q := fresh.run [.start "alice", .check 0, .ask 0, .finish 0 (.roles .empty)]
    -- One search is sent, and the entry that came before the silence does not count.
    ((c₀.run ss).pool.held? 0 = some 0 ∧
      (c₀.run asked).lookups[0]? = some ⟨"alice", 0, .searching⟩ ∧
      (∃ e, e.isUnavailable = true ∧
        (c₀.run told).lookups[0]? = some ⟨"alice", 0, .finished (.error e)⟩) ∧
      (c₀.searchesFor 0 told).length = 1) ∧
    -- A full answer reaches the cache.
    (fresh.joined? "alice" = none ∧
      (fresh.lookup (directory (answering full)) "alice" (c₀, ())).1.cache ≠ fresh.cache ∧
      ∃ ts, (c₀.lookup (answering full) "alice" ()).1 = c₀.run ts ∧ c₀.Completed ts 0) ∧
    ((q.step (.resume 0)).cache ≠ q.cache ∧ ∃ k user roles, q.call? 0 = some k ∧
      q.calls[k]? = some ⟨user, .ended (.roles roles)⟩) ∧
    -- An error does not.
    (p.calls[0]? = some ⟨"alice", .running⟩ ∧ ∀ roles,
      ((p.step (.finish 0 (outcomeOf (.error .unavailable)))).run [.resume 0]).calls[0]? ≠
        some ⟨"alice", .ended (.roles roles)⟩) := by
  intro settings connector broken full c₀ ss asked told cache fresh p q
  have hquery := settings.query?_eq Directory.isDescription_uid "alice"
  have held : (c₀.run ss).pool.held? 0 = some 0 := by decide
  have hl : (c₀.run ss).lookups[0]? = some ⟨"alice", 0, .acquiring⟩ := by rfl
  obtain ⟨hasked, -⟩ :=
    ((only_complete_searches_give_roles settings connector ss).1 0 _ hl).1.asks 0 _ rfl held hquery
  rw [← Directory.Client.run_concat] at hasked
  obtain ⟨o, means, htold⟩ :=
    ((only_complete_searches_give_roles settings connector asked).1 0 _ hasked).1.hears broken rfl
  rw [← Directory.Client.run_concat] at htold
  have hbroken : ¬ broken.IsComplete := by
    rintro ⟨r, hr, -⟩
    cases hr
  obtain ⟨e, rfl, he⟩ := means.error_of_not_complete hbroken
  have had : c₀.HadConnection 0 told := ⟨ss, [.search 0, .answer 0 broken], 0, rfl, held⟩
  have hcount := ((only_complete_searches_give_roles settings connector told).1 0 _ htold).2.2
    Directory.isDescription_uid _ rfl
  have hchanged :
      (fresh.lookup (directory (answering full)) "alice" (c₀, ())).1.cache ≠ fresh.cache := by
    decide +kernel
  have hserved := (only_complete_searches_give_roles settings connector []).2.1 Unit
    (answering full) () fresh "alice" rfl
  simp only [Directory.Client.run_nil, List.nil_append] at hserved
  rw [show ofSettings settings connector = c₀ from rfl] at hserved
  have hcompleted := hserved hchanged
  have hwritten : (q.step (.resume 0)).cache ≠ q.cache := by decide
  have hroles := ((only_complete_searches_give_roles settings connector ss).2.2 true cache
    [.start "alice", .check 0, .ask 0, .finish 0 (.roles .empty)]).1 (.resume 0) 0 rfl
  rw [show (Provider.ofCache true cache).run
    [.start "alice", .check 0, .ask 0, .finish 0 (.roles .empty)] = q from rfl] at hroles
  have hrunning : p.calls[0]? = some ⟨"alice", .running⟩ := by decide
  have herror := ((only_complete_searches_give_roles settings connector ss).2.2 true cache
    [.start "alice", .check 0, .ask 0]).2 0 "alice" .unavailable _ hrunning (.inr rfl)
  rw [show (Provider.ofCache true cache).run [.start "alice", .check 0, .ask 0] = p from rfl]
    at herror
  exact ⟨⟨held, hasked, ⟨e, he, htold⟩, hcount.1 had⟩, ⟨rfl, hchanged, hcompleted⟩,
    ⟨hwritten, hroles hwritten⟩, hrunning, herror [.resume 0] "alice"⟩

end Service
end RoleLookup
