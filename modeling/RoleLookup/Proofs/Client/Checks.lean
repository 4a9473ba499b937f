import RoleLookup.Proofs.Client.Accounting
import RoleLookup.Proofs.Pool.Course

/-!
# Health checks of a client

What a health check tells, and that it comes to its end.

* `Verdict`, what a check tells if it ends now;
* `Suits`, where the acquire of a check can be, with `sound_run`;
* `concluded_run`, every record is the verdict of the moment in which its check ended;
* `ahead_run` and `record_of_turns`, enough turns bring a check to its end;
* `quiet_of_isOfCheck`, it sends no search.
-/

namespace RoleLookup.Directory

/-- What a check tells if its acquire is over. -/
inductive Pool.Verdict (p : Pool) (a : Nat) : Health.Record → Prop
  | connected {k} (held : p.held? a = some k) : Verdict p a ⟨p.isAlive k,
      .object [("bindDn", .text p.connector.bindDn), ("connected", .bool (p.isAlive k))]⟩
  | unconnected {e} (failed : p.error? a = some e) : Verdict p a ⟨false,
      .object [("bindDn", .text p.connector.bindDn), ("connected", .bool false),
        ("error", .text e.message)]⟩

/-- A check is good news just if it has a connection that can be used. -/
theorem Pool.Verdict.healthy_iff {p : Pool} {a : Nat} {record : Health.Record}
    (h : p.Verdict a record) :
    record.healthy = true ↔ ∃ k, p.held? a = some k ∧ p.isAlive k = true := by
  cases h with
  | connected held => simp [held]
  | unconnected failed =>
    have hnone : p.held? a = none := by
      rw [error?_eq_some] at failed
      simp [held?, failed]
    simp [hnone]

theorem Pool.Step.Serves.borrower? {t : Pool.Step} {a : Nat} (h : t.Serves a) :
    t.borrower? = none := by
  cases h <;> rfl

namespace Client

variable {c d : Client} {s : Step} {ss : List Step} {a h k : Nat} {record : Health.Record}
  {j : Check} {phase : Pool.Phase}

/-! ### The acquire of a check -/

/-- Where the acquire of a check can be before it has its record, and then. -/
def Suits : Option Health.Record → Pool.Phase → Prop
  | none, phase => phase.IsPending ∨ (∃ k, phase = .holding k) ∨ ∃ e, phase = .failed e
  | some _, phase => phase = .released ∨ ∃ e, phase = .failed e

theorem Suits.permits (hs : Suits (some record) phase) : phase.permits = 0 := by
  rcases hs with rfl | ⟨e, rfl⟩ <;> rfl

/-- Without its borrower an acquire only gets on. -/
theorem Suits.goes {p : Pool} {t : Pool.Step} {phase' : Pool.Phase} {r : Option Health.Record}
    (hs : Suits r phase) (g : p.Goes a t phase phase') (ht : t.borrower? ≠ some a) :
    Suits r phase' := by
  cases r with
  | none =>
    cases g with
    | giveBack | free | abandon => exact absurd rfl ht
    | refuse m | giveUp m =>
      cases m with
      | loan | first => exact .inr (.inr ⟨_, rfl⟩)
      | later => exact .inl trivial
    | greet _ m | accept _ m =>
      cases m with
      | lend => exact .inr (.inl ⟨_, rfl⟩)
      | more | full => exact .inl trivial
    | expire => exact .inr (.inr ⟨_, rfl⟩)
    | reuse => exact .inr (.inl ⟨_, rfl⟩)
    | queue | begin | bind | reject | grant | dial => exact .inl trivial
  | some record =>
    rcases hs with rfl | ⟨e, rfl⟩
    · cases g with
      | abandon hp => exact hp.elim
    · cases g with
      | abandon hp => exact hp.elim

theorem conclude_of_held (hh : c.checks[h]? = some ⟨a, none⟩) (held : c.pool.held? a = some k) :
    c.conclude h =
      (c.release a).setRecord h (connectedRecord c.pool.connector.bindDn (c.pool.isAlive k)) := by
  simp [conclude, hh, held]

theorem conclude_of_failed {e : Error} (hh : c.checks[h]? = some ⟨a, none⟩)
    (failed : c.pool.error? a = some e) : ∃ events, c.conclude h =
      (c.note a events).setRecord h (unconnectedRecord c.pool.connector.bindDn e) := by
  have hheld : c.pool.held? a = none := by
    rw [Pool.error?_eq_some] at failed
    simp [Pool.held?, failed]
  exact ⟨_, by simp only [conclude, hh, hheld, failed]; rfl⟩

theorem getElem?_setRecord (c : Client) (h : Nat) (record : Health.Record) (m : Nat) :
    (c.setRecord h record).checks[m]? =
      (c.checks[m]?).map fun j => if h = m then { j with record := some record } else j := by
  rw [setRecord, List.getElem?_modify]
  by_cases hm : h = m <;> simp [hm]

/-- A check ends with a record, or nothing happens. -/
theorem conclude_cases (hh : c.checks[h]? = some j) : c.conclude h = c ∨
    ∃ record, j = ⟨j.acquire, none⟩ ∧ c.pool.Verdict j.acquire record ∧
      ∃ d : Client, d.checks = c.checks ∧ c.conclude h = d.setRecord h record := by
  obtain ⟨a, _ | record⟩ := j
  · cases held : c.pool.held? a with
    | some k =>
      exact .inr ⟨_, rfl, .connected held, c.release a, rfl, conclude_of_held hh held⟩
    | none =>
      cases failed : c.pool.error? a with
      | some e =>
        obtain ⟨events, hconclude⟩ := conclude_of_failed hh failed
        exact .inr ⟨_, rfl, .unconnected failed, c.note a events, rfl, hconclude⟩
      | none => exact .inl (by simp only [conclude, hh, held, failed])
  · exact .inl (by simp only [conclude, hh])

/-- A connection that is released leaves nothing with its acquire. -/
theorem phase?_release (ha : c.pool.phase? a = some (.holding k)) :
    (c.release a).pool.phase? a = some .released := by
  have hreturned : (c.pool.giveBack a).phase? a = some .returned := by
    have hset : (c.pool.setPhase a .returned).phase? a = some .returned :=
      Pool.phase?_setPhase_self ha
    simp only [Pool.giveBack, ha]
    split
    · exact hset
    · split
      · rw [Pool.phase?_congr Pool.acquires_unbind]
        exact hset
      · exact hset
  have hfree : (c.pool.giveBack a).free a =
      { c.pool.giveBack a with
        permits := (c.pool.giveBack a).permits + 1 }.setPhase a .released := by
    simp only [Pool.free, hreturned]
  rw [pool_release, Pool.step, Pool.step, hfree]
  exact Pool.phase?_setPhase_self (p := { c.pool.giveBack a with permits := _ }) hreturned

/-- What the end of a check does to the pool. -/
structure Concludes (p : Pool) (a : Nat) (q : Pool) : Prop where
  /-- The acquire of the check has given everything back. -/
  own : ∃ phase, q.phase? a = some phase ∧ Suits (some default) phase
  others : ∀ b, b ≠ a → q.phase? b = p.phase? b
  length : q.acquires.length = p.acquires.length
  searches : q.searches = p.searches
  initialised : p.isInitialised = true → q.isInitialised = true
  size : q.size = p.size

theorem concludes_release (ha : c.pool.phase? a = some (.holding k)) :
    Concludes c.pool a (c.release a).pool := by
  have length (p : Pool) (t : Pool.Step) (ht : ∀ spans, t ≠ .start spans) :
      (p.step t).acquires.length = p.acquires.length := (Pool.step_fires p t).length_acquires ht
  have hlength : (c.release a).pool.acquires.length = c.pool.acquires.length := by
    rw [pool_release, length _ (.free a) (by simp), length _ (.giveBack a) (by simp)]
  refine ⟨⟨.released, phase?_release ha, .inl rfl⟩, fun b hb => ?_, hlength,
    searches_release c a, fun ready => ?_, ?_⟩
  · cases hphase : c.pool.phase? b with
    | none =>
      rw [Pool.phase?, Option.map_eq_none_iff, List.getElem?_eq_none_iff] at hphase ⊢
      rwa [hlength]
    | some phase => exact phase?_release_of_other hphase hb
  · exact Pool.isInitialised_run ready [.giveBack a, .free a]
  · rw [pool_release, Pool.size_step, Pool.size_step]

/-- A check whose acquire has come to its end is over with the verdict of that moment. -/
theorem conclude_ends (hh : c.checks[h]? = some ⟨a, none⟩) (ha : c.pool.phase? a = some phase)
    (suits : Suits none phase) (ended : ¬ phase.IsPending) :
    ∃ record, c.pool.Verdict a record ∧ (c.conclude h).record? h = some record ∧
      (c.conclude h).lookups = c.lookups ∧ Concludes c.pool a (c.conclude h).pool := by
  have recorded {d : Client} {record : Health.Record} (hd : d.checks = c.checks) :
      (d.setRecord h record).record? h = some record := by
    simp [record?, getElem?_setRecord, hd, hh]
  rcases suits with pending | ⟨k, rfl⟩ | ⟨e, rfl⟩
  · exact absurd pending ended
  · have held := Pool.held?_eq_some.2 ha
    rw [conclude_of_held hh held]
    exact ⟨_, .connected held, recorded rfl, rfl, concludes_release ha⟩
  · have failed := Pool.error?_eq_some.2 ha
    obtain ⟨events, hconclude⟩ := conclude_of_failed hh failed
    rw [hconclude]
    exact ⟨_, .unconnected failed, recorded rfl, rfl,
      ⟨_, ha, .inr ⟨e, rfl⟩⟩, fun _ _ => rfl, rfl, rfl, id, rfl⟩

/-! ### All checks of a run -/

/-- What others do leaves a check where it is. -/
theorem Fires.check_of_others (f : Fires c s d) (hh : c.checks[h]? = some j)
    (hs : s ≠ .conclude h) : d.checks[h]? = some j := by
  have other {d : Client} {m : Nat} {record : Health.Record} (hd : d.checks = c.checks)
      (hm : m ≠ h) : (d.setRecord m record).checks[h]? = some j := by
    simp [getElem?_setRecord, hd, hh, hm]
  cases f with
  | check =>
    rw [List.getElem?_append_left (List.getElem?_eq_some_iff.1 hh).1]
    exact hh
  | connected | unconnected =>
    refine other rfl ?_
    rintro rfl
    exact hs rfl
  | _ => exact hh

/-- No step acts for the acquire of a check but its end. -/
theorem Linked.borrower?_ne_check (linked : c.Linked) (hh : c.checks[h]? = some j)
    (hs : s ≠ .conclude h) : c.borrower? s ≠ some j.acquire := by
  have lookups (m : Nat) : (c.lookups[m]?).map (·.acquire) ≠ some j.acquire := by
    intro heq
    obtain ⟨k, hk, hacquire⟩ := Option.map_eq_some_iff.1 heq
    exact linked.check_apart hk hh hacquire
  cases s with
  | search m | answer m | fail m | abandon m => exact lookups m
  | conclude m =>
    intro heq
    obtain ⟨k, hk, hacquire⟩ := Option.map_eq_some_iff.1 heq
    have hnodup := (List.nodup_append.1 linked.nodup).2.1
    have hlength : m < (c.checks.map (·.acquire)).length := by
      rw [List.length_map]
      exact (List.getElem?_eq_some_iff.1 hk).1
    have hm : m = h := (List.getElem?_inj hlength hnodup).1 (by simp [hk, hh, hacquire])
    exact hs (by rw [hm])
  | _ => nofun

/-- A check was there before, or starts, or ends with the verdict of that moment. -/
theorem check_of_step (hq : (c.step s).checks[h]? = some j) :
    (c.checks[h]? = some j ∧ (s = .conclude h → c.step s = c)) ∨
    (∃ spans, s = .check spans ∧ j = ⟨c.pool.acquires.length, none⟩) ∨
    (s = .conclude h ∧ ∃ record, c.checks[h]? = some ⟨j.acquire, none⟩ ∧
      c.pool.Verdict j.acquire record ∧ j.record = some record) := by
  cases hh : c.checks[h]? with
  | none =>
    -- A check that was not there can only have started.
    have same (hd : (c.step s).checks = c.checks) : False := by
      rw [hd, hh] at hq
      cases hq
    have modified (m : Nat) (record : Health.Record) {d : Client} (hd : d.checks = c.checks)
        (heq : c.step s = d.setRecord m record) : False := by
      rw [heq, getElem?_setRecord, hd, hh] at hq
      cases hq
    generalize hd : c.step s = d at hq same modified
    cases hd ▸ step_fires c s with
    | check spans =>
      have hle : c.checks.length ≤ h := List.getElem?_eq_none_iff.1 hh
      rw [List.getElem?_append_right hle, List.getElem?_singleton] at hq
      split at hq
      · cases hq
        exact .inr (.inl ⟨spans, rfl, rfl⟩)
      · cases hq
    | connected record => exact (modified _ record (d := c.release _) rfl rfl).elim
    | unconnected events record => exact (modified _ record (d := c.note _ events) rfl rfl).elim
    | _ => exact (same rfl).elim
  | some j' =>
    by_cases hs : s = .conclude h
    · subst hs
      rcases conclude_cases hh with hidle | ⟨record, hj', verdict, d, hd, hconclude⟩
      · rw [step, hidle, hh] at hq
        exact .inl ⟨hq, fun _ => hidle⟩
      · rw [step, hconclude, getElem?_setRecord, hd, hh, Option.map_some, if_pos rfl,
          Option.some.injEq] at hq
        subst hq
        exact .inr (.inr ⟨rfl, record, congrArg some hj', verdict, rfl⟩)
    · rw [(step_fires c s).check_of_others hh hs] at hq
      exact .inl ⟨hq, fun h => absurd h hs⟩

theorem phase?_start (p : Pool) (spans : List Log.Span) :
    (p.step (.start spans)).phase? p.acquires.length = some .started := by
  simp [Pool.step, Pool.phase?]

/-- The acquire of every check is where it can be. -/
def Sound (c : Client) : Prop := ∀ (h : Nat) (j : Check), c.checks[h]? = some j →
  ∃ phase, c.pool.phase? j.acquire = some phase ∧ Suits j.record phase

theorem sound_ofSettings (settings : Settings) (connector : Connector) :
    (ofSettings settings connector).Sound := by
  intro h j hh
  simp [ofSettings] at hh

theorem Sound.step (sound : c.Sound) (linked : c.Linked) (s : Step) : (c.step s).Sound := by
  intro h j hq
  rcases check_of_step hq with ⟨hh, idle⟩ | ⟨spans, rfl, rfl⟩ | ⟨rfl, record, hh, verdict, hrecord⟩
  · obtain ⟨phase, ha, suits⟩ := sound h j hh
    by_cases hs : s = .conclude h
    · rw [idle hs]
      exact ⟨phase, ha, suits⟩
    · obtain ⟨phase', ha', rfl | ⟨t, ht, g⟩⟩ := (step_fires c s).acquire_of_owner
        (mem_owners_of_check hh) (linked.borrower?_ne_check hh hs) ha
      · exact ⟨_, ha', suits⟩
      · exact ⟨phase', ha', suits.goes g ht⟩
  · exact ⟨.started, phase?_start c.pool spans, .inl trivial⟩
  · rw [hrecord]
    cases verdict with
    | connected held =>
      rw [Client.step, conclude_of_held hh held]
      exact ⟨.released, phase?_release (Pool.held?_eq_some.1 held), .inl rfl⟩
    | @unconnected e failed =>
      obtain ⟨events, hconclude⟩ := conclude_of_failed hh failed
      rw [Client.step, hconclude]
      exact ⟨.failed e, Pool.error?_eq_some.1 failed, .inr ⟨e, rfl⟩⟩

theorem sound_run (settings : Settings) (connector : Connector) (ss : List Step) :
    ((ofSettings settings connector).run ss).Sound := by
  refine (run_induction (P := fun c => c.Linked ∧ c.Sound) ?_
    ⟨linked_ofSettings settings connector, sound_ofSettings settings connector⟩ ss).2
  exact fun c s h => ⟨h.1.fires (step_fires c s), h.2.step h.1 s⟩

/-- Every record is the verdict of the moment in which its check ended. -/
theorem concluded_run (settings : Settings) (connector : Connector) (ss : List Step)
    (hh : ((ofSettings settings connector).run ss).checks[h]? = some ⟨a, some record⟩) :
    ∃ before after, ss = before ++ .conclude h :: after ∧
      ((ofSettings settings connector).run before).pool.Verdict a record := by
  induction ss using List.reverseRecOn with
  | nil => simp [ofSettings] at hh
  | append_singleton ss s ih =>
    rw [run_concat] at hh
    -- The record was there before the last step, or the last step has given it.
    rcases check_of_step hh with ⟨hh, -⟩ | ⟨spans, rfl, hj⟩ | ⟨rfl, record', -, verdict, hrecord⟩
    · obtain ⟨before, after, rfl, verdict⟩ := ih hh
      exact ⟨before, after ++ [s], by simp, verdict⟩
    · cases hj
    · cases hrecord
      exact ⟨ss, [], rfl, verdict⟩

/-! ### Checks come to an end -/

/-- Whether the acquire of a check goes on in a step. -/
def isTurn (c : Client) (a : Nat) : Step → Bool
  | .pool t => c.pool.isTurn a t
  | _ => false

/-- How many turns the acquire of a check has in a run. -/
def turns (c : Client) (a : Nat) : List Step → Nat
  | [] => 0
  | s :: ss => (c.isTurn a s).toNat + (c.step s).turns a ss

/-- Whether a connection may come back in a step. -/
def Step.returns : Step → Bool
  | .pool t => t.returns
  | .search _ | .answer .. | .abandon _ | .conclude _ => true
  | _ => false

theorem ahead_release (balanced : c.pool.Balanced) (known : a < c.pool.acquires.length) (b : Nat) :
    (c.release b).pool.ahead a ≤ c.pool.ahead a + 1 := by
  let back : List Pool.Step := [.giveBack b, .free b]
  have hrun : (c.pool.run back).ahead a + c.pool.turns a back ≤
      c.pool.ahead a + back.countP Pool.Step.returns :=
    Pool.ahead_run balanced known (by simp [back])
  exact (Nat.le_add_right _ _).trans hrun

theorem ahead_le_of_pool {t : Pool.Step} (balanced : c.pool.Balanced)
    (known : a < c.pool.acquires.length) (ht : t ≠ .abandon a) (hreturns : t.returns = false) :
    (c.pool.step t).ahead a ≤ c.pool.ahead a := by
  have hstep := Pool.ahead_step balanced known ht
  rw [hreturns, Bool.toNat_false, Nat.add_zero] at hstep
  exact (Nat.le_add_right _ _).trans hstep

/-- What a borrower does is nobody's turn. -/
theorem isTurn_of_borrower {p : Pool} {t : Pool.Step} {b : Nat} (ht : t.borrower? = some b) :
    p.isTurn a t = false := by
  cases t with
  | search | giveBack | free | abandon =>
    unfold Pool.isTurn
    split
    case h_2 stage _ => cases stage <;> rfl
    all_goals first | rfl | contradiction
  | _ => cases ht

/-- A step of the pool brings a check further if it is its turn. -/
theorem ahead_pool (balanced : c.pool.Balanced) (known : a < c.pool.acquires.length)
    (owned : a ∈ c.owners) (t : Pool.Step) :
    (c.step (.pool t)).pool.ahead a + (c.pool.isTurn a t).toNat ≤
      c.pool.ahead a + t.returns.toNat := by
  cases ht : t.borrower? with
  | none =>
    have hstep : c.step (.pool t) = c.onPool t := by simp only [step, ht]
    rw [hstep]
    refine Pool.ahead_step balanced known ?_
    rintro rfl
    cases ht
  | some b =>
    have hturn := isTurn_of_borrower (p := c.pool) (a := a) ht
    have hstep : c.step (.pool t) = if c.owns b then c else c.onPool t := by simp only [step, ht]
    rw [hstep, hturn]
    split
    · simp
    · rename_i free
      have := Pool.ahead_step (s := t) (a := a) balanced known (by
        rintro rfl
        cases ht
        exact free (owns_eq_true.2 owned))
      rw [hturn] at this
      exact this

/-- A turn brings a check further, and others throw it back by a connection that comes back. -/
theorem ahead_step (balanced : c.pool.Balanced) (linked : c.Linked) (hh : c.checks[h]? = some j)
    (s : Step) : (c.step s).pool.ahead j.acquire + (c.isTurn j.acquire s).toNat ≤
      c.pool.ahead j.acquire + s.returns.toNat := by
  have known := linked.known _ (mem_owners_of_check hh)
  have release {c : Client} (balanced : c.pool.Balanced)
      (known : j.acquire < c.pool.acquires.length) (b : Nat) :
      (c.release b).pool.ahead j.acquire + 0 ≤ c.pool.ahead j.acquire + 1 :=
    ahead_release balanced known b
  by_cases hpool : ∃ t, s = .pool t
  · obtain ⟨t, rfl⟩ := hpool
    exact ahead_pool balanced known (mem_owners_of_check hh) t
  have hturn : c.isTurn j.acquire s = false := by
    cases s with
    | pool t => exact absurd ⟨t, rfl⟩ hpool
    | _ => rfl
  rw [hturn, Bool.toNat_false]
  generalize hd : c.step s = d
  cases hd ▸ step_fires c s with
  | idle => omega
  | pool => exact absurd ⟨_, rfl⟩ hpool
  | lookup user => exact ahead_le_of_pool (t := .start _) balanced known nofun rfl
  | check spans => exact ahead_le_of_pool (t := .start _) balanced known nofun rfl
  | @search _ _ b _ query events =>
    refine Nat.le_add_right_of_le ?_
    exact ahead_le_of_pool (c := c.note b events) (t := .search b query) (balanced.note b events)
      known nofun rfl
  | @refuse _ _ b _ events =>
    exact release (c := c.note b events) (balanced.note b events) known b
  | @answer _ _ b _ before after =>
    exact release (c := c.note b before) (balanced.note b before) known b
  | fail => exact Nat.le_refl _
  | unconnected => exact Nat.le_add_right ..
  | @leave l user b hl =>
    -- A lookup that is given up drops its acquire, and then what that acquire has got.
    have hb : j.acquire ≠ b := (linked.check_apart hl hh).symm
    have habandon := ahead_le_of_pool (t := .abandon b) balanced known
      (fun heq => hb (by cases heq; rfl)) rfl
    have hrelease := release (c := c.onPool (.abandon b)) (balanced.step (.abandon b))
      (Nat.lt_of_lt_of_le known (Pool.length_acquires_step c.pool (.abandon b))) b
    exact hrelease.trans (Nat.add_le_add_right habandon 1)
  | giveUp | connected => exact release balanced known _

/-- A check keeps its acquire. -/
theorem exists_check_step (hh : c.checks[h]? = some j) (s : Step) :
    ∃ j', (c.step s).checks[h]? = some j' ∧ j'.acquire = j.acquire := by
  by_cases hs : s = .conclude h
  · subst hs
    rcases conclude_cases hh with hidle | ⟨record, -, -, d, hd, hconclude⟩
    · refine ⟨j, ?_, rfl⟩
      rw [step, hidle, hh]
    · refine ⟨{ j with record := some record }, ?_, rfl⟩
      rw [step, hconclude, getElem?_setRecord, hd, hh, Option.map_some, if_pos rfl]
  · exact ⟨j, (step_fires c s).check_of_others hh hs, rfl⟩

/-- Enough turns bring the acquire of a check to its end, whatever others do meanwhile. -/
theorem ahead_run (balanced : c.pool.Balanced) (linked : c.Linked) (hh : c.checks[h]? = some j)
    (ss : List Step) : (c.run ss).pool.ahead j.acquire + c.turns j.acquire ss ≤
      c.pool.ahead j.acquire + ss.countP Step.returns := by
  induction ss generalizing c j with
  | nil => simp [turns]
  | cons s ss ih =>
    have hstep := ahead_step balanced linked hh s
    obtain ⟨j', hq, hacquire⟩ := exists_check_step hh s
    have hrest := ih (balanced_step balanced s) (linked.fires (step_fires c s)) hq
    rw [hacquire] at hrest
    rw [run_cons, turns, List.countP_cons]
    cases hreturns : s.returns <;> simp [hreturns] at hstep ⊢ <;> omega

theorem exists_check_run (hh : c.checks[h]? = some j) (ss : List Step) :
    ∃ j', (c.run ss).checks[h]? = some j' ∧ j'.acquire = j.acquire := by
  refine run_induction (P := fun d => ∃ j', d.checks[h]? = some j' ∧ j'.acquire = j.acquire) ?_
    ⟨j, hh, rfl⟩ ss
  rintro d s ⟨j', hj', hacquire⟩
  obtain ⟨j'', hj'', hsame⟩ := exists_check_step hj' s
  exact ⟨j'', hj'', hsame.trans hacquire⟩

/-- A check whose acquire has nothing ahead of it has a record once it ends. -/
theorem record_of_ended (sound : c.Sound) (hh : c.checks[h]? = some j)
    (ended : c.pool.ahead j.acquire = 0) : ∃ record, (c.conclude h).record? h = some record := by
  obtain ⟨a, _ | record⟩ := j
  · obtain ⟨phase, ha, suits⟩ := sound h _ hh
    have hpending : ¬ phase.IsPending := by
      rw [← Pool.aheadOf_pos (p := c.pool), ← Pool.ahead_of_phase ha, ended]
      exact Nat.lt_irrefl 0
    obtain ⟨record, -, hrecord, -⟩ := conclude_ends hh ha suits hpending
    exact ⟨record, hrecord⟩
  · refine ⟨record, ?_⟩
    have hidle : c.conclude h = c := by simp only [conclude, hh]
    rw [hidle, record?, hh]
    rfl

/-- After enough turns a check has a record once it ends, whatever others do meanwhile. -/
theorem record_of_turns (balanced : c.pool.Balanced) (linked : c.Linked)
    (sound : (c.run ss).Sound) (hh : c.checks[h]? = some j)
    (enough : c.pool.ahead j.acquire + ss.countP Step.returns ≤ c.turns j.acquire ss) :
    ∃ record, ((c.run ss).conclude h).record? h = some record := by
  obtain ⟨j', hj', hacquire⟩ := exists_check_run hh ss
  have hrun := ahead_run balanced linked hh ss
  refine record_of_ended sound hj' ?_
  rw [hacquire]
  omega

/-- Whoever waits for the pool waits for somebody who has a turn. -/
theorem exists_turn_of_waits (waits : c.pool.Waits a) : ∃ b s, c.isTurn b s = true := by
  obtain ⟨b, phase, hphase, hopens⟩ := Pool.isInitialising_eq_true.1 waits.2.2
  have pending : phase.IsPending := by
    cases phase with
    | opening => trivial
    | _ => cases hopens
  have busy : ¬ c.pool.Waits b := by
    rintro ⟨hstarted, -⟩
    rw [hphase, Option.some.injEq] at hstarted
    rw [hstarted] at hopens
    cases hopens
  obtain ⟨t, ht⟩ := Pool.exists_turn hphase pending busy
  exact ⟨b, .pool t, ht⟩

/-- Until its acquire is over, a check has a turn, or waits for somebody who opens the pool and has
one. -/
theorem exists_turn_of_ahead (ha : c.pool.ahead a ≠ 0) :
    ∃ b s, c.isTurn b s = true ∧ (b = a ∨ c.pool.Waits a) := by
  cases hphase : c.pool.phase? a with
  | none => simp [Pool.ahead, hphase] at ha
  | some phase =>
    by_cases waits : c.pool.Waits a
    · obtain ⟨b, s, hs⟩ := exists_turn_of_waits waits
      exact ⟨b, s, hs, .inr waits⟩
    · rw [Pool.ahead_of_phase hphase] at ha
      obtain ⟨t, ht⟩ :=
        Pool.exists_turn hphase (Pool.aheadOf_pos.1 (Nat.pos_of_ne_zero ha)) waits
      exact ⟨a, .pool t, ht, .inl rfl⟩

/-- The steps of a check: its start, the turns of its acquire, and its end. -/
def IsOfCheck (c : Client) (a h : Nat) (s : Step) : Prop :=
  (∃ spans, s = .check spans) ∨ c.isTurn a s = true ∨ s = .conclude h

/-- A check sends no search, and lookups stay where they are. -/
theorem quiet_of_isOfCheck (hs : c.IsOfCheck a h s) :
    (c.step s).pool.searches = c.pool.searches ∧ (c.step s).lookups = c.lookups := by
  rcases hs with ⟨spans, rfl⟩ | turn | rfl
  · exact ⟨rfl, rfl⟩
  · cases s with
    | pool t =>
      cases ht : t.borrower? with
      | some b =>
        rw [isTurn, isTurn_of_borrower ht] at turn
        cases turn
      | none =>
        have hstep : c.step (.pool t) = c.onPool t := by simp only [step, ht]
        rw [hstep]
        refine ⟨Pool.searches_step c.pool ?_, rfl⟩
        rintro b query rfl
        cases ht
    | _ => cases turn
  · generalize hd : c.step (.conclude h) = d
    cases hd ▸ step_fires c (.conclude h) with
    | idle => exact ⟨rfl, rfl⟩
    | connected => exact ⟨searches_release c _, rfl⟩
    | unconnected => exact ⟨rfl, rfl⟩

end Client
end RoleLookup.Directory
