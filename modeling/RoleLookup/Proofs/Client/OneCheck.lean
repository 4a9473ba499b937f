import RoleLookup.Proofs.Client.Checks

/-!
# One health check at a time

A check that nobody interferes with has its record, and leaves nothing behind.

* `Settled`, nobody is about to open the pool;
* `Undisturbed`, what a check leaves as it is;
* `Told`, in which moment of a run a check ends, and with which record;
* `Checked`, what one check tells and leaves, with `check_ends`.
-/

namespace RoleLookup.Directory.Client

variable {c d : Client} {a h : Nat} {phase : Pool.Phase} {record : Health.Record}

/-- Nobody is about to open the pool. -/
def Settled (c : Client) : Prop := c.pool.isInitialised = true ∨ c.pool.isInitialising = false

/-- What a check leaves as it is. -/
structure Undisturbed (c d : Client) : Prop where
  lookups : d.lookups = c.lookups
  searches : d.pool.searches = c.pool.searches
  /-- No acquire of somebody else goes on. -/
  others : ∀ a < c.pool.acquires.length, d.pool.phase? a = c.pool.phase? a
  /-- No permit is missing. -/
  permits : d.pool.total Pool.Phase.permits = c.pool.total Pool.Phase.permits
  size : d.pool.size = c.pool.size
  acquires : c.pool.acquires.length ≤ d.pool.acquires.length

theorem Undisturbed.refl (c : Client) : c.Undisturbed c :=
  ⟨rfl, rfl, fun _ _ => rfl, rfl, rfl, Nat.le_refl _⟩

theorem Undisturbed.trans {e : Client} (h : c.Undisturbed d) (h' : d.Undisturbed e) :
    c.Undisturbed e where
  lookups := h'.lookups.trans h.lookups
  searches := h'.searches.trans h.searches
  others a ha := (h'.others a (Nat.lt_of_lt_of_le ha h.acquires)).trans (h.others a ha)
  permits := h'.permits.trans h.permits
  size := h'.size.trans h.size
  acquires := h.acquires.trans h'.acquires

theorem run_pool {ts : List Pool.Step} (h : ∀ t ∈ ts, t.borrower? = none) :
    c.run (ts.map .pool) = { c with pool := c.pool.run ts } := by
  induction ts generalizing c with
  | nil => rfl
  | cons t ts ih =>
    obtain ⟨ht, hts⟩ := List.forall_mem_cons.1 h
    have hstep : c.step (.pool t) = c.onPool t := by simp only [step, ht]
    rw [List.map_cons, run_cons, hstep, ih hts]
    rfl

/-- The acquire of a check after the steps that serve it. -/
theorem suits_of_serves {p : Pool} {ts : List Pool.Step} (ha : p.phase? a = some phase)
    (suits : Suits none phase) (serves : ∀ t ∈ ts, t.Serves a) :
    ∃ phase', (p.run ts).phase? a = some phase' ∧ Suits none phase' := by
  refine Pool.run_induction (P := fun q => ∃ phase', q.phase? a = some phase' ∧ Suits none phase')
    ?_ ⟨phase, ha, suits⟩
  rintro q t ht ⟨ph, hph, hsuits⟩
  obtain ⟨ph', hph', rfl | g⟩ := Pool.phase?_step hph t
  · exact ⟨_, hph', hsuits⟩
  · exact ⟨ph', hph', hsuits.goes g (by simp [(serves t ht).borrower?])⟩

theorem isInitialising_eq_false {p : Pool} : p.isInitialising = false ↔
    ∀ b phase, p.phase? b = some phase → phase.isInitialising = false := by
  constructor
  · exact fun alone b phase hb => Pool.not_isInitialising_of_alone alone hb
  · intro h
    rw [Bool.eq_false_iff]
    intro opening
    obtain ⟨b, phase, hb, hopens⟩ := Pool.isInitialising_eq_true.1 opening
    rw [h b phase hb] at hopens
    cases hopens

theorem phase?_start_of_other {p : Pool} {b : Nat} (spans : List Log.Span)
    (hb : b ≠ p.acquires.length) : (p.step (.start spans)).phase? b = p.phase? b := by
  rcases Nat.lt_or_gt_of_ne hb with hlt | hgt
  · simp [Pool.step, Pool.phase?, List.getElem?_append_left hlt]
  · simp [Pool.step, Pool.phase?, Nat.le_of_lt hgt, hgt]

theorem total_start {w : Pool.Phase → Nat} (hw : w .started = 0) (p : Pool)
    (spans : List Log.Span) : (p.step (.start spans)).total w = p.total w := by
  simp [Pool.step, Pool.total, hw]

/-- What a check with its own acquire does to the pool, from its start to its end. -/
theorem undisturbed_of_concludes {spans : List Log.Span} {q : Pool}
    (hq : (c.pool.step (.start spans)).Serves c.pool.acquires.length q)
    (hd : Concludes q c.pool.acquires.length d.pool) (hlookups : d.lookups = c.lookups) :
    c.Undisturbed d where
  lookups := hlookups
  searches := hd.searches.trans (hq.searches.trans rfl)
  others b hb := by
    have hne : b ≠ c.pool.acquires.length := Nat.ne_of_lt hb
    rw [hd.others b hne, hq.others b hne, phase?_start_of_other spans hne]
  permits := by
    obtain ⟨phase, ha, suits⟩ := hd.own
    have htotal := Pool.total_of_others Pool.Phase.permits (phase?_start c.pool spans) ha
      fun b hb => (hd.others b hb).trans (hq.others b hb)
    rw [suits.permits, total_start rfl] at htotal
    exact htotal
  size := hd.size.trans (hq.size.trans rfl)
  acquires := by
    rw [hd.length, hq.length]
    exact Pool.length_acquires_step c.pool (.start spans)

theorem Settled.of_concludes {spans : List Log.Span} {q : Pool} (settled : c.Settled)
    (hq : (c.pool.step (.start spans)).Serves c.pool.acquires.length q)
    (hd : Concludes q c.pool.acquires.length d.pool) : d.Settled := by
  rcases settled with ready | alone
  · exact .inl (hd.initialised (hq.initialised ready))
  · refine .inr (isInitialising_eq_false.2 fun b phase hb => ?_)
    by_cases hab : b = c.pool.acquires.length
    · obtain ⟨phase', ha, rfl | ⟨e, rfl⟩⟩ := hd.own
      all_goals
        rw [hab, ha, Option.some.injEq] at hb
        subst hb
        rfl
    · rw [hd.others b hab, hq.others b hab, phase?_start_of_other spans hab] at hb
      exact isInitialising_eq_false.1 alone b phase hb

theorem Settled.unhindered (settled : c.Settled) (spans : List Log.Span) :
    (c.pool.step (.start spans)).Unhindered c.pool.acquires.length := by
  rcases settled with ready | alone
  · exact .inl ready
  · refine .inr fun b phase hab hb => isInitialising_eq_false.1 alone b phase ?_
    rwa [phase?_start_of_other spans hab] at hb

/-- In a run a check ends, and its record is the verdict of that moment. It blames the pool only if
others have all of its permits. -/
def Told (c : Client) (ts : List Step) (h : Nat) (record : Health.Record) : Prop :=
  ∃ before after a, ts = before ++ .conclude h :: after ∧
    (c.run before).checks[h]? = some ⟨a, none⟩ ∧ (c.run before).pool.Verdict a record ∧
    (c.pool.total Pool.Phase.permits < c.pool.size →
      ∀ span, (c.run before).pool.error? a ≠ some (.poolExhausted span))

/-- What happens later does not matter. -/
theorem Told.append {ts : List Step} (told : c.Told ts h record) (us : List Step) :
    c.Told (ts ++ us) h record := by
  obtain ⟨before, after, a, rfl, hh⟩ := told
  exact ⟨before, after ++ us, a, by simp, hh⟩

/-- A check before which nobody else was disturbed. -/
theorem Told.of_run {ts us : List Step} (told : (c.run ts).Told us h record)
    (undisturbed : c.Undisturbed (c.run ts)) : c.Told (ts ++ us) h record := by
  obtain ⟨before, after, a, rfl, hh, verdict, spare⟩ := told
  rw [← run_append] at hh verdict spare
  refine ⟨ts ++ before, after, a, by simp, hh, verdict, fun hlt => spare ?_⟩
  rw [undisturbed.permits, undisturbed.size]
  exact hlt

/-- What one check tells, and what it leaves. -/
structure Checked (c d : Client) (record : Health.Record) : Prop where
  told : ∃ ts, d = c.run ts ∧ c.Told ts c.checks.length record
  count : d.checks.length = c.checks.length + 1
  undisturbed : c.Undisturbed d
  settled : d.Settled

theorem length_checks_conclude (c : Client) (h : Nat) :
    (c.conclude h).checks.length = c.checks.length := by
  change (c.step (.conclude h)).checks.length = _
  generalize hd : c.step (.conclude h) = d
  cases hd ▸ step_fires c (.conclude h) with
  | idle => rfl
  | connected | unconnected => exact List.length_modify ..

/-- One check when nobody else acts and nobody is about to open the pool. -/
theorem check_ends {ν : Type} (balanced : c.pool.Balanced) (settled : c.Settled) (net : Network ν)
    (spans : List Log.Span) (n : ν) :
    ∃ record, (c.check net spans n).2.2 = some record ∧
      c.Checked (c.check net spans n).1 record := by
  -- The pool by itself, in which the acquire of the check takes its course.
  let a := c.pool.acquires.length
  let p := c.pool.step (.start spans)
  have ha : p.phase? a = some .started := phase?_start c.pool spans
  have fresh : p.Balanced := balanced.step _
  have enough : p.ahead a ≤ p.mostMoments := by
    rw [Pool.ahead_of_phase ha]
    exact p.aheadOf_started_le
  let ts := (p.course net a n).1
  obtain ⟨serves, hend⟩ : (∀ t ∈ ts, t.Serves a) ∧ (p.run ts).ahead a = 0 :=
    Pool.courseFor_ends fresh (Pool.lt_of_phase ha) (settled.unhindered spans) net enough n
  have hq : p.Serves a (p.run ts) := Pool.serves_run serves
  obtain ⟨phase, hphase, suits⟩ := suits_of_serves ha (.inl trivial) serves
  have ended : ¬ phase.IsPending := by
    rw [← Pool.aheadOf_pos (p := p.run ts), ← Pool.ahead_of_phase hphase, hend]
    exact Nat.lt_irrefl 0
  -- The same steps among those of the client, and then the end of the check.
  let c₁ := (c.step (.check spans)).run (ts.map .pool)
  have hc₁ : c₁ = { c.step (.check spans) with pool := p.run ts } :=
    run_pool fun t ht => (serves t ht).borrower?
  have hpool : c₁.pool = p.run ts := by rw [hc₁]
  have hh : c₁.checks[c.checks.length]? = some ⟨a, none⟩ := by
    rw [hc₁]
    exact List.getElem?_concat_length
  obtain ⟨record, verdict, hrecord, hlookups, hd⟩ :=
    conclude_ends hh (hpool ▸ hphase) suits ended
  let before : List Step := .check spans :: ts.map .pool
  have hrun : (c.check net spans n).1 = c.run (before ++ [.conclude c.checks.length]) :=
    (run_append c before [.conclude c.checks.length]).symm
  refine ⟨record, hrecord,
    ⟨_, hrun, before, [], a, rfl, hh, verdict, fun spare span hspan => ?_⟩, ?_, ?_, ?_⟩
  · rw [Pool.error?_eq_some] at hspan
    refine Pool.not_isExhausted_run fresh ha ?_ serves (hpool ▸ hspan) (.failed span)
    rw [total_start rfl]
    exact spare
  · have hcount : c₁.checks.length = c.checks.length + 1 := by
      rw [hc₁]
      exact List.length_append
    exact (length_checks_conclude c₁ c.checks.length).trans hcount
  · rw [hpool] at hd
    exact undisturbed_of_concludes hq hd (hlookups.trans (by rw [hc₁]; rfl))
  · rw [hpool] at hd
    exact settled.of_concludes hq hd

end RoleLookup.Directory.Client
