import RoleLookup.Proofs.Client.Accounting
import RoleLookup.Proofs.Directory.UserFilter
import RoleLookup.Proofs.Pool.Initialisation

/-!
# Which error a lookup reports

The error of a lookup depends on how the bind of the first connection ended, if its acquire opened
the pool, and on what its search found.

* `Phase.IsServed`, `Phase.IsUnbound`, an acquire that has got a connection, and one whose first
  connection could not be bound; by `phase?_run_of_closed` it stays so;
* `FirstBind`, how the bind of the first connection ended, with `error_of_firstBind`;
* `Refuses`, `Breaks`, a bind that the directory answered with another code than success, and one
  whose connection was lost;
* `Crowded`, a search found several entries and the client is strict, with `outcome_of_heard`;
* `errors_are_classified`, the error of every lookup of every run.
-/

namespace RoleLookup.Directory
namespace Pool

variable {p : Pool} {s : Step} {a : Nat} {phase phase' : Phase} {e : Error}

/-! ### What acquires do not come back from -/

/-- An acquire has got a connection. -/
inductive Phase.IsServed : Phase → Prop
  | holding {k} : IsServed (.holding k)
  | returned : IsServed .returned
  | released : IsServed .released

/-- The first connection that an acquire opened could not be bound. -/
inductive Phase.IsUnbound (e : Error) : Phase → Prop
  | unbinding {k} : IsUnbound e (.opening (.initial []) (.unbinding k e))
  | failed : IsUnbound e (.failed (initialisationError e))
  | abandoned : IsUnbound e .abandoned

theorem Goes.isServed (g : Goes p a s phase phase') (h : phase.IsServed) : phase'.IsServed := by
  cases h with
  | holding =>
    cases g with
    | giveBack => exact .returned
    | abandon hp => exact hp.elim
  | returned =>
    cases g with
    | free => exact .released
    | abandon hp => exact hp.elim
  | released =>
    cases g with
    | abandon hp => exact hp.elim

theorem Goes.isUnbound (g : Goes p a s phase phase') (h : phase.IsUnbound e) :
    phase'.IsUnbound e := by
  cases h with
  | unbinding =>
    cases g with
    | giveUp m =>
      cases m with
      | first => exact .failed
      | later hcs => exact absurd rfl hcs
    | abandon => exact .abandoned
  | failed | abandoned =>
    cases g with
    | abandon hp => exact hp.elim

theorem Phase.IsUnbound.not_isServed (h : phase.IsUnbound e) : ¬ phase.IsServed := by
  cases h <;> nofun

end Pool

namespace Client

variable {c d : Client} {s : Step} {ss : List Step} {l a k : Nat} {user : String}
  {o : Except LookupError RoleSet} {e : Error} {answer : Except RequestError Result}

/-- Phases that acquires do not leave are not left in a run. -/
theorem phase?_run_of_closed {P : Pool.Phase → Prop}
    (closed : ∀ {p : Pool} {t phase phase'}, p.Goes a t phase phase' → P phase → P phase')
    (h : ∃ phase, c.pool.phase? a = some phase ∧ P phase) (ss : List Step) :
    ∃ phase, (c.run ss).pool.phase? a = some phase ∧ P phase := by
  have keep (p : Pool) (t : Pool.Step) (hp : ∃ phase, p.phase? a = some phase ∧ P phase) :
      ∃ phase, (p.step t).phase? a = some phase ∧ P phase := by
    obtain ⟨phase, ha, hphase⟩ := hp
    obtain ⟨phase', ha', rfl | g⟩ := Pool.phase?_step ha t
    · exact ⟨_, ha', hphase⟩
    · exact ⟨_, ha', closed g hphase⟩
  refine run_induction (P := fun d => ∃ phase, d.pool.phase? a = some phase ∧ P phase) ?_ h ss
  intro d s hd
  exact (step_fires d s).pool_induction (P := fun p => ∃ phase, p.phase? a = some phase ∧ P phase)
    (fun p t _ hp => keep p t hp) (fun t _ => keep d.pool t hd) (fun _ _ _ hp => hp) hd

theorem HadConnection.isServed (h : c.HadConnection a ss) :
    ∃ phase, (c.run ss).pool.phase? a = some phase ∧ phase.IsServed := by
  obtain ⟨before, after, k, rfl, held⟩ := h
  rw [run_append]
  exact phase?_run_of_closed (fun g => g.isServed) ⟨_, Pool.held?_eq_some.1 held, .holding⟩ after

/-! ### The bind of the first connection -/

/-- In a run, the bind of the first connection of an acquire ended in some way, and the pool was not
open. -/
def FirstBind (c : Client) (ss : List Step) (a : Nat) (answer : Except RequestError Result) :
    Prop :=
  ∃ before after k, ss = before ++ .pool (.bound a answer) :: after ∧
    (c.run before).pool.isInitialised = false ∧
    (c.run before).pool.phase? a = some (.opening (.initial []) (.binding k))

/-- The directory answered a bind with another code than success. -/
def Refuses (answer : Except RequestError Result) : Prop := ∃ r, answer = .ok r ∧ r.code ≠ 0

/-- A bind got no answer, though there was time left. -/
def Breaks (answer : Except RequestError Result) : Prop :=
  ∃ cause, answer = .error cause ∧ cause ≠ .timeout

/-- A bind that was refused or got no answer while there was time counts as a failure to bind, and
nothing else does. -/
theorem bindError?_isBindFailure_iff (bindDn : String) (answer : Except RequestError Result) :
    (∃ e, bindError? bindDn answer = some e ∧ e.isBindFailure = true) ↔
      Refuses answer ∨ Breaks answer := by
  cases answer with
  | error cause =>
    have hbreaks : Refuses (.error cause) ∨ Breaks (.error cause) ↔ cause ≠ .timeout := by
      simp [Refuses, Breaks]
    rw [hbreaks]
    cases cause <;> simp [bindError?, Error.isBindFailure]
  | ok r =>
    have hrefuses : Refuses (.ok r) ∨ Breaks (.ok r) ↔ r.code ≠ 0 := by
      simp [Refuses, Breaks]
    rw [hrefuses]
    by_cases hzero : r.code = 0
    · simp [bindError?, hzero]
    by_cases hcredentials : r.code = 49
    · simp [bindError?, hcredentials, Error.isBindFailure]
    · simp [bindError?, hzero, hcredentials, Error.isBindFailure]

/-- An acquire whose first connection could not be bound. -/
theorem FirstBind.isUnbound (h : c.FirstBind ss a answer)
    (bad : bindError? c.pool.connector.bindDn answer = some e) :
    ∃ phase, (c.run ss).pool.phase? a = some phase ∧ phase.IsUnbound e := by
  obtain ⟨before, after, k, rfl, -, ha⟩ := h
  rw [← connector_run c before] at bad
  rw [run_append, run_cons]
  exact phase?_run_of_closed (fun g => g.isUnbound)
    ⟨_, Pool.phase?_of_proceeds ha (.reject bad), .unbinding⟩ after

theorem FirstBindFailed.firstBind {settings : Settings} {connector : Connector}
    (h : (ofSettings settings connector).FirstBindFailed ss a e) :
    ∃ answer, (ofSettings settings connector).FirstBind ss a answer ∧
      bindError? connector.bindDn answer = some e := by
  obtain ⟨before, after, k, answer, hss, ha, bad⟩ := h
  have balanced := balanced_run settings connector before
  exact ⟨answer, ⟨before, after, k, hss, balanced.fresh_of_isInitialising ha rfl, ha⟩, bad⟩

/-- A lookup whose first connection could not be bound has got none, and says why. -/
theorem Ended.of_isUnbound (h : Ended c ss l user a o)
    (unbound : ∃ phase, (c.run ss).pool.phase? a = some phase ∧ phase.IsUnbound e) :
    o = .error (Pool.initialisationError e).toLookupError := by
  obtain ⟨phase, ha, hphase⟩ := unbound
  have never : ¬ c.HadConnection a ss := by
    intro had
    obtain ⟨phase', ha', served⟩ := had.isServed
    rw [ha] at ha'
    cases ha'
    exact hphase.not_isServed served
  cases h with
  | unconnected _ _ he =>
    rw [Pool.error?_eq_some, ha] at he
    cases he
    cases hphase
    rfl
  | unasked had | answered had => exact absurd had never

/-! ### What a lookup has heard -/

/-- A lookup that has ended stays as it is. -/
theorem finished_run (hl : c.lookups[l]? = some ⟨user, a, .finished o⟩) (ss : List Step) :
    (c.run ss).lookups[l]? = some ⟨user, a, .finished o⟩ := by
  refine run_induction (P := fun d => d.lookups[l]? = some ⟨user, a, .finished o⟩) ?_ hl ss
  intro d s hd
  have f := step_fires d s
  by_cases hs : s.lookup? = some l
  · generalize d.step s = d' at f ⊢
    cases f with
    | idle => exact hd
    | pool | lookup | check | connected | unconnected => cases hs
    | search _ hm | refuse _ hm | answer _ _ hm | fail hm | leave hm | giveUp hm =>
      cases hs
      cases hd.symm.trans hm
  · exact f.lookup_of_others hd hs

/-- What a lookup has heard is what it says. -/
theorem outcome_of_heard {search : Nat × Query} {answer : SearchAnswer}
    (heard : c.Heard l ss search answer)
    (hl : (c.run ss).lookups[l]? = some ⟨user, a, .finished o⟩) :
    o = c.settings.verdict user answer := by
  obtain ⟨before, after, rfl, hawaited⟩ := heard
  obtain ⟨user', a', hsearching⟩ : ∃ user' a',
      (c.run before).lookups[l]? = some ⟨user', a', .searching⟩ := by
    unfold awaited? at hawaited
    split at hawaited
    · exact ⟨_, _, ‹_›⟩
    · cases hawaited
  have hended := finished_run (lookup_answer hsearching answer) after
  rw [run_append, run_cons, hended, settings_run] at hl
  cases hl
  rfl

/-- A search of a lookup was complete and found several entries, and the client is strict. -/
def Crowded (c : Client) (ss : List Step) (l : Nat) : Prop :=
  c.settings.strictAmbiguity = true ∧ ∃ search answer, c.Heard l ss search answer ∧
    answer.IsComplete ∧ 2 ≤ answer.found.length

theorem ambiguous_of_crowded (h : c.Crowded ss l)
    (hl : (c.run ss).lookups[l]? = some ⟨user, a, .finished o⟩) :
    ∃ n, o = .error (.ambiguousUser user n) := by
  obtain ⟨strict, search, answer, heard, complete, several⟩ := h
  have hmeans := c.settings.verdict_means user answer
  rw [← outcome_of_heard heard hl] at hmeans
  cases hmeans with
  | nobody _ h | one _ h => simp [h] at several
  | several _ _ lenient =>
    rw [strict] at lenient
    cases lenient
  | ambiguous => exact ⟨_, rfl⟩
  | incomplete h => exact absurd complete h

/-! ### The error of a lookup -/

/-- Why a lookup may report an error. -/
inductive Blames (c : Client) (ss : List Step) (l a : Nat) : LookupError → Prop
  /-- The pool could not be opened. -/
  | pool {text answer} (first : c.FirstBind ss a answer) (bad : Refuses answer ∨ Breaks answer) :
      Blames c ss l a (.poolInitialisation text)
  | crowd {user n} (crowded : c.Crowded ss l) : Blames c ss l a (.ambiguousUser user n)
  /-- The directory could not be asked. -/
  | unavailable {e : LookupError} (he : e.isUnavailable = true) : Blames c ss l a e

section Run

variable {settings : Settings} {connector : Connector}

theorem Excused.blames {e : LookupError} (h : (ofSettings settings connector).Excused ss a e) :
    (ofSettings settings connector).Blames ss l a e := by
  rcases h with he | ⟨cause, rfl, failure, failed⟩
  · exact .unavailable he
  · obtain ⟨answer, first, bad⟩ := failed.firstBind
    exact .pool first ((bindError?_isBindFailure_iff connector.bindDn answer).1 ⟨_, bad, failure⟩)

theorem Ended.blames {e : LookupError}
    (h : Ended (ofSettings settings connector) ss l user a (.error e)) :
    (ofSettings settings connector).Blames ss l a e := by
  generalize ho : Except.error e = o at h
  cases h with
  | unconnected _ _ he =>
    cases ho
    exact (excused_of_error he).blames
  | unasked =>
    cases ho
    exact .unavailable rfl
  | @answered k query answer _ _ _ heard =>
    have hmeans := (ofSettings settings connector).settings.verdict_means user answer
    rw [← ho] at hmeans
    cases hmeans with
    | ambiguous complete several strict => exact .crowd ⟨strict, _, _, heard, complete, several⟩
    | incomplete _ he => exact .unavailable he

theorem ended_of_finished
    (hl : ((ofSettings settings connector).run ss).lookups[l]? = some ⟨user, a, .finished o⟩) :
    Ended (ofSettings settings connector) ss l user a o := by
  cases tale_run settings connector ss hl with
  | finished h => exact h

/-- The error of a lookup whose acquire could not bind the first connection. -/
theorem Ended.of_firstBind (h : Ended (ofSettings settings connector) ss l user a o)
    (first : (ofSettings settings connector).FirstBind ss a answer)
    (bad : bindError? connector.bindDn answer = some e) :
    o = .error (Pool.initialisationError e).toLookupError :=
  h.of_isUnbound (first.isUnbound bad)

end Run

/-- **The errors of lookups are classified.** In every run, a lookup that has ended says that the
pool could not be opened if and only if its acquire found the pool not open, and the directory
refused the bind of the first connection or the connection was lost before it answered. It says that
the user is ambiguous if and only if the client is strict and a complete search found several
entries. All other errors say that the directory is unavailable, also after a bind of the first
connection that was not answered in time. -/
theorem errors_are_classified (settings : Settings) (connector : Connector) (ss : List Step)
    {l a : Nat} {user : String} {o : Except LookupError RoleSet}
    (hl : ((ofSettings settings connector).run ss).lookups[l]? = some ⟨user, a, .finished o⟩) :
    let c := ofSettings settings connector
    let spoilt := ∃ answer, c.FirstBind ss a answer ∧ (Refuses answer ∨ Breaks answer)
    ((∃ text, o = .error (.poolInitialisation text)) ↔ spoilt) ∧
    ((∃ v n, o = .error (.ambiguousUser v n)) ↔ c.Crowded ss l) ∧
    (∀ e, o = .error e → (e.isUnavailable = true ↔ ¬ spoilt ∧ ¬ c.Crowded ss l)) ∧
    (c.FirstBind ss a (.error .timeout) → ∃ e, o = .error e ∧ e.isUnavailable = true) := by
  intro c spoilt
  have ended := ended_of_finished hl
  have hpool : (∃ text, o = .error (.poolInitialisation text)) ↔ spoilt := by
    constructor
    · rintro ⟨text, rfl⟩
      cases ended.blames with
      | pool first bad => exact ⟨_, first, bad⟩
      | unavailable he => cases he
    · rintro ⟨answer, first, bad⟩
      obtain ⟨e, he, failure⟩ := (bindError?_isBindFailure_iff connector.bindDn answer).2 bad
      have hopen : Pool.initialisationError e = .poolInitialisation e := if_pos failure
      exact ⟨_, (ended.of_firstBind first he).trans (by rw [hopen]; rfl)⟩
  have hcrowd : (∃ v n, o = .error (.ambiguousUser v n)) ↔ c.Crowded ss l := by
    constructor
    · rintro ⟨v, n, rfl⟩
      cases ended.blames with
      | crowd crowded => exact crowded
      | unavailable he => cases he
    · intro crowded
      obtain ⟨n, hn⟩ := ambiguous_of_crowded crowded hl
      exact ⟨user, n, hn⟩
  refine ⟨hpool, hcrowd, ?_, ?_⟩
  · rintro e rfl
    rw [← hpool, ← hcrowd]
    cases e <;> simp [LookupError.isUnavailable]
  · intro first
    exact ⟨_, ended.of_firstBind first rfl, rfl⟩

/-- A pool of one. A bind that is refused is blamed for the first error, two entries for the second
one, and a bind that is not answered in time gives an error like any other. -/
theorem errors_are_classified_alice :
    let settings : Settings :=
      { host := "ldap", port := 389, searchBase := "", poolSize := 1, strictAmbiguity := true }
    let connector : Connector :=
      ⟨⟨"ldap", none, "", none, none⟩, false, 3000, 3000, none, "cn=reader", "secret"⟩
    let start := ofSettings settings connector
    let bound (answer : Except RequestError Result) : List Step :=
      [.lookup "alice", .pool (.enter 0), .pool (.connected 0 (.ok ())), .pool (.bound 0 answer)]
    let refused := bound (.ok ⟨53, "", ""⟩) ++ [Step.pool (.unbound 0), Step.fail 0]
    let late := bound (.error .timeout) ++ [Step.pool (.unbound 0), Step.fail 0]
    let lent := bound (.ok ⟨0, "", ""⟩) ++ [Step.pool (.grant 0), Step.pool (.take 0)]
    let asked := lent ++ [Step.search 0]
    let twins : SearchAnswer :=
      ⟨[.entry ⟨"uid=alice", []⟩, .entry ⟨"cn=alice", []⟩], .ok ⟨0, "", ""⟩⟩
    (∃ answer, start.FirstBind refused 0 answer ∧ (Refuses answer ∨ Breaks answer)) ∧
    start.Crowded (asked ++ [Step.answer 0 twins]) 0 ∧
    ∃ e, (start.run late).outcome? 0 = some (.error e) ∧ e.isUnavailable = true := by
  intro settings connector start bound refused late lent asked twins
  have hrefused : (start.run refused).lookups[0]? = some ⟨"alice", 0, .finished (.error
      (Error.poolInitialisation (.bindRefused 53 "")).toLookupError)⟩ := by rfl
  have hlate : (start.run late).lookups[0]? = some ⟨"alice", 0, .finished (.error
      (Error.bind .timeout).toLookupError)⟩ := by rfl
  have hlent : (start.run lent).lookups[0]? = some ⟨"alice", 0, .acquiring⟩ := by rfl
  have held : (start.run lent).pool.held? 0 = some 0 := by decide
  obtain ⟨events, hsearch⟩ :=
    step_search hlent held (settings.query?_eq isDescription_uid "alice")
  have hasked : (start.run asked).lookups[0]? = some ⟨"alice", 0, .searching⟩ := by
    rw [run_concat, hsearch]
    rfl
  have htwins : (start.run (asked ++ [Step.answer 0 twins])).lookups[0]? =
      some ⟨"alice", 0, .finished (.error (.ambiguousUser "alice" 2))⟩ := by
    rw [run_concat, lookup_answer hasked, settings_run]
    rfl
  refine ⟨?_, ?_, ?_⟩
  · exact (errors_are_classified settings connector refused hrefused).1.1 ⟨_, rfl⟩
  · exact (errors_are_classified settings connector _ htwins).2.1.1 ⟨_, _, rfl⟩
  · have first : start.FirstBind late 0 (.error .timeout) :=
      ⟨[.lookup "alice", .pool (.enter 0), .pool (.connected 0 (.ok ()))], _, 0, rfl, by decide,
        by decide⟩
    obtain ⟨e, he, unavailable⟩ :=
      (errors_are_classified settings connector late hlate).2.2.2 first
    refine ⟨e, ?_, unavailable⟩
    rw [outcome?, hlate, he]

/-- A connection that is lost before its bind is answered counts as a bind that was refused. -/
theorem not_only_refusals_are_blamed :
    ¬ ∀ (settings : Settings) (connector : Connector) (ss : List Step) (l a : Nat) (user : String)
      (o : Except LookupError RoleSet),
      ((ofSettings settings connector).run ss).lookups[l]? = some ⟨user, a, .finished o⟩ →
      ((∃ text, o = .error (.poolInitialisation text)) ↔
        ∃ answer, (ofSettings settings connector).FirstBind ss a answer ∧ Refuses answer) := by
  intro h
  obtain ⟨answer, ⟨before, after, k, hss, -⟩, r, rfl, -⟩ := (h
    { host := "ldap", port := 389, searchBase := "" }
    ⟨⟨"ldap", none, "", none, none⟩, false, 3000, 3000, none, "cn=reader", "secret"⟩
    [.lookup "alice", .pool (.enter 0), .pool (.connected 0 (.ok ())), .pool (.close 0),
      .pool (.bound 0 (.error .closed)), .pool (.unbound 0), .fail 0] 0 0 "alice" _ rfl).1 ⟨_, rfl⟩
  have hmem : Step.pool (.bound 0 (.ok r)) ∈ before ++ .pool (.bound 0 (.ok r)) :: after := by simp
  rw [← hss] at hmem
  simp at hmem

end Client
end RoleLookup.Directory
