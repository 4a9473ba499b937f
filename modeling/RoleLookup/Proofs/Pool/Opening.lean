import RoleLookup.Proofs.Pool.Acquires
import RoleLookup.Proofs.Pool.Connections
import RoleLookup.Proofs.Pool.Conservation
import RoleLookup.Proofs.Pool.Restart

/-!
# How a pool is opened

A pool is opened by one acquire at a time. Until it has been opened, nothing is left of the attempts
that came to nothing.

* `Phase.IsEarly`, where an acquire can be before the pool has been opened;
* `Unopened`, the invariant: then every connection that is alive is with the acquire that opens;
* `isInitialised_run`, a pool that has been opened stays so;
* `Blank`, a pool of which nothing is open, and `blank_of_alone`, it is one while nobody opens it.
-/

namespace RoleLookup.Directory
namespace Pool

variable {p q : Pool} {s : Step} {ss : List Step} {a b c : Nat} {phase phase' : Phase}

/-! ### Before the pool is opened -/

/-- Where an acquire can be before the pool has been opened. -/
def Phase.IsEarly : Phase → Prop
  | .started | .opening (.initial _) _ | .failed _ | .abandoned => True
  | _ => False

theorem Moves.isInitialised {k : Books} (m : Moves p phase phase' k)
    (h : p.isInitialised = true) : k.isInitialised = true := by
  cases m with
  | fill | settle => rfl
  | _ => exact h

theorem Moves.isEarly {k : Books} (m : Moves p phase phase' k) (hk : k.isInitialised = false)
    (h : phase.IsEarly) : phase'.IsEarly := by
  cases m with
  | queue ready =>
    rw [books_isInitialised, ready] at hk
    cases hk
  | fill | settle => cases hk
  | @bind purpose | @reject purpose =>
    cases purpose with
    | initial => trivial
    | loan => exact h.elim
  | leave hp => trivial
  | lend | grant | dial | drop | reuse | forget | keep | free => exact h.elim
  | _ => trivial

/-- Before the pool is opened, a new connection is with the acquire that opens it. -/
theorem Moves.owns {k : Books} (m : Moves p phase phase' k) (hc : c < k.opened)
    (hnew : ¬ c < p.opened) (hk : k.isInitialised = false) (ha : q.phase? a = some phase')
    (h : phase.IsEarly) : ∃ cs stage, q.phase? a = some (.opening (.initial cs) stage) ∧
      c ∈ ownConnections (.initial cs) stage := by
  cases m with
  | @bind purpose =>
    cases purpose with
    | initial cs =>
      have heq : c = p.opened := by
        simp only at hc
        omega
      exact ⟨cs, _, ha, heq ▸ List.mem_cons_self⟩
    | loan => exact h.elim
  | lend => exact h.elim
  | more hy =>
    cases hy with
    | connecting =>
      have heq : c = p.opened := by
        simp only at hc
        omega
      exact ⟨_, _, ha, heq ▸ List.mem_cons_self⟩
    | binding => exact absurd hc hnew
  | fill => cases hk
  | _ => exact absurd hc hnew

/-- A pool that has been opened stays so. -/
theorem isInitialised_step (h : p.isInitialised = true) (s : Step) :
    (p.step s).isInitialised = true := by
  cases (step_fires p s).counts with
  | same _ hb | start _ _ hb => exact (congrArg Books.isInitialised hb).trans h
  | move _ m _ hb =>
    subst hb
    exact m.isInitialised h

theorem isInitialised_run (h : p.isInitialised = true) (ss : List Step) :
    (p.run ss).isInitialised = true :=
  run_induction (P := fun p => p.isInitialised = true) (fun _ s _ h => isInitialised_step h s) h

theorem fresh_of_step (h : (p.step s).isInitialised = false) : p.isInitialised = false := by
  by_contra hp
  rw [isInitialised_step (by simpa using hp) s] at h
  cases h

/-- An acquire is where it was, or has just started, or is the one that has gone on. -/
theorem Counts.phase?_cases (h : Counts p q) (hb : q.phase? b = some phase) :
    p.phase? b = some phase ∨ phase = .started ∨
      ∃ ph, p.phase? b = some ph ∧ Moves p ph phase q.books := by
  cases h with
  | same ha =>
    rw [phase?_congr ha] at hb
    exact .inl hb
  | start spans ha =>
    cases hp : p.phase? b with
    | none => exact .inr (.inl (phase?_new (.start spans ha ‹_›) hp hb).1)
    | some ph =>
      obtain ⟨k, hk, rfl⟩ := Option.map_eq_some_iff.1 hp
      rw [phase?, ha, List.getElem?_append_left (List.getElem?_eq_some_iff.1 hk).1, hk] at hb
      exact .inl hb
  | @move a _ _ _ ha m hq hk =>
    subst hk
    rw [phase?_congr hq, phase?_setPhase] at hb
    obtain ⟨ph, hph, rfl⟩ := Option.map_eq_some_iff.1 hb
    by_cases hab : a = b
    · subst hab
      rw [ha] at hph
      cases hph
      exact .inr (.inr ⟨_, ha, by simpa using m⟩)
    · exact .inl (by simpa [hab] using hph)

/-- A connection is new because an acquire has gone on. -/
theorem Counts.of_opened (h : Counts p q) (hc : p.opened < q.opened) :
    ∃ a ph ph', p.phase? a = some ph ∧ q.phase? a = some ph' ∧ Moves p ph ph' q.books := by
  cases h with
  | same _ hk | start _ _ hk =>
    have hopened : q.opened = p.opened := congrArg Books.opened hk
    omega
  | @move a _ ph' _ ha m hq hk =>
    subst hk
    refine ⟨a, _, ph', ha, ?_, m⟩
    simp [phase?_congr hq, phase?_setPhase, ha]

/-- A connection that is abandoned by the acquire that opened it is lost. -/
theorem not_alive_abandon {purpose : Purpose} {stage : Stage}
    (ha : p.phase? a = some (.opening purpose stage)) (hc : c ∈ ownConnections purpose stage) :
    (p.abandon a).isAlive c = false := by
  have hconnections : (p.abandon a).connections =
      (p.lose (ownConnections purpose stage)).connections := by
    simp only [abandon, ha]
    split <;> rfl
  rw [← Bool.not_eq_true, isAlive, fate?, hconnections, ← fate?, ← isAlive, isAlive_lose]
  exact fun h => h.2 hc

/-- A connection whose bind has failed is closed. -/
theorem not_alive_reject {purpose : Purpose} {answer : Except RequestError Result} {e : Error}
    (ha : p.phase? a = some (.opening purpose (.binding c)))
    (bad : bindError? p.connector.bindDn answer = some e) :
    (p.bound a answer).isAlive c = false := by
  simp only [bound, ha, note_connector, bad]
  exact isAlive_unbind _ c

/-- A pool that has not been opened has no more than the acquire that opens it. -/
structure Unopened (p : Pool) : Prop where
  early : p.isInitialised = false → ∀ {a phase}, p.phase? a = some phase → phase.IsEarly
  /-- A connection on its way to be closed cannot be used. -/
  unbound : ∀ {a purpose c e}, p.phase? a = some (.opening purpose (.unbinding c e)) →
    p.isAlive c = false
  owned : p.isInitialised = false → ∀ {c}, p.isAlive c = true → ∃ a cs stage,
    p.phase? a = some (.opening (.initial cs) stage) ∧ c ∈ ownConnections (.initial cs) stage

theorem unopened_ofSettings (s : Settings) (connector : Connector) :
    (ofSettings s connector).Unopened := by
  constructor <;> simp [ofSettings, phase?, isAlive, fate?]

namespace Unopened

theorem early_step (h : p.Unopened) (hq : (p.step s).isInitialised = false)
    (hphase : (p.step s).phase? a = some phase) : phase.IsEarly := by
  have hp := fresh_of_step hq
  rcases (step_fires p s).counts.phase?_cases hphase with hphase | rfl | ⟨ph, hph, m⟩
  · exact h.early hp hphase
  · trivial
  · exact m.isEarly hq (h.early hp hph)

theorem unbound_step {purpose : Purpose} {e : Error} (h : p.Unopened) (balanced : p.Balanced)
    (ha : (p.step s).phase? a = some (.opening purpose (.unbinding c e))) :
    (p.step s).isAlive c = false := by
  obtain ⟨ph, hph, rfl | g⟩ | ⟨hstarted, -⟩ := phase?_of_step ha
  · exact not_alive_step (balanced.lt_opened_of_mem hph List.mem_cons_self) (h.unbound hph) s
  · cases g with
    | refuse h | greet _ h | accept _ h | giveUp h => cases h
    | reject bad => exact not_alive_reject hph bad
  · cases hstarted

theorem owned_step (h : p.Unopened) (hq : (p.step s).isInitialised = false)
    (alive : (p.step s).isAlive c = true) : ∃ a cs stage,
    (p.step s).phase? a = some (.opening (.initial cs) stage) ∧
      c ∈ ownConnections (.initial cs) stage := by
  have hp := fresh_of_step hq
  by_cases hc : c < p.opened
  · have hbefore : p.isAlive c = true := by
      by_contra dead
      rw [not_alive_step hc (by simpa using dead)] at alive
      cases alive
    obtain ⟨a, cs, stage, ha, hmem⟩ := h.owned hp hbefore
    obtain ⟨ph, hph, rfl | g⟩ := phase?_step ha s
    · exact ⟨a, cs, stage, hph, hmem⟩
    · have early := h.early_step hq hph
      cases g with
      | refuse m =>
        cases m with
        | first => cases hmem
        | later => exact early.elim
      | greet nobody r =>
        cases r with
        | more => exact ⟨a, _, _, hph, List.mem_cons_of_mem _ hmem⟩
        | full => exact early.elim
      | accept ok r =>
        cases r with
        | more => exact ⟨a, _, _, hph, hmem⟩
        | full => exact early.elim
      | bind => exact ⟨a, cs, _, hph, List.mem_cons_of_mem _ hmem⟩
      | reject => exact ⟨a, cs, _, hph, hmem⟩
      | giveUp m =>
        cases m with
        | first =>
          rw [List.mem_singleton.1 hmem, h.unbound ha] at hbefore
          cases hbefore
        | later => exact early.elim
      | abandon =>
        have hlost : (p.step (.abandon a)).isAlive c = false := not_alive_abandon ha hmem
        rw [hlost] at alive
        cases alive
  · have hlt : c < (p.step s).books.opened := lt_opened_of_isAlive alive
    obtain ⟨a, ph, ph', ha, ha', m⟩ :=
      (step_fires p s).counts.of_opened (Nat.lt_of_le_of_lt (Nat.le_of_not_lt hc) hlt)
    exact ⟨a, m.owns hlt hc hq ha' (h.early hp ha)⟩

theorem step (h : p.Unopened) (balanced : p.Balanced) (s : Step) : (p.step s).Unopened :=
  ⟨fun hq => h.early_step hq, h.unbound_step balanced, fun hq => h.owned_step hq⟩

end Unopened

theorem unopened_run (s : Settings) (connector : Connector) (ss : List Step) :
    ((ofSettings s connector).run ss).Unopened := by
  refine (run_induction (P := fun p => p.Balanced ∧ p.Unopened) ?_
    ⟨balanced_ofSettings s connector, unopened_ofSettings s connector⟩).2
  rintro p s - ⟨balanced, unopened⟩
  exact ⟨balanced.step s, unopened.step balanced s⟩

/-! ### A pool of which nothing is open -/

/-- Nothing of a pool is open, and it goes on like a new one on which its acquires have started. -/
structure Blank (new p : Pool) : Prop where
  fresh : p.isInitialised = false
  idle : p.idle = []
  /-- No permit is free or with an acquire. -/
  permits : p.permits + p.total Phase.permits = 0
  connections : ∀ c, p.isAlive c = false
  /-- The next acquire opens the pool from the start. -/
  begins : ∀ a, p.phase? a = some .started →
    (p.step (.enter a)).phase? a = some (.opening (.initial []) .connecting)
  /-- Of what was before, only the numbers of the next connections can be told. -/
  restarts : ∀ ss, p.run (ss.map (·.shift p.opened)) =
    ({ new with now := p.now, acquires := p.acquires }.run ss).after p

theorem not_isInitialising_of_alone (alone : p.isInitialising = false)
    (ha : p.phase? a = some phase) : phase.isInitialising = false := by
  obtain ⟨k, hk, rfl⟩ := Option.map_eq_some_iff.1 ha
  have hall : ∀ k ∈ p.acquires, k.phase.isInitialising = false := by
    simpa [isInitialising] using alone
  exact hall k (List.mem_of_getElem? hk)

theorem Phase.shift_of_isEarly (early : phase.IsEarly) (h : phase.isInitialising = false)
    (n : Nat) : phase.shift n = phase := by
  rcases phase with _ | ⟨_ | _, _⟩ | _ | _ | _ | _ | _ | _ | _
  case opening.initial => cases h
  case opening.loan | holding => exact early.elim
  all_goals rfl

/-- The pool of which nothing is open, as a new one that comes after it. -/
theorem Unopened.eq_after (h : p.Unopened) (balanced : p.Balanced) (fresh : p.isInitialised = false)
    (alone : p.isInitialising = false) {new : Pool} (hterms : p.terms = new.terms)
    (hnew : new.isInitialised = false ∧ new.idle = [] ∧ new.permits = 0 ∧ new.connections = [] ∧
      new.sent = [] ∧ new.log = []) :
    p = { new with now := p.now, acquires := p.acquires }.after p := by
  obtain ⟨hinit, hidle, hpermits, hconnections, hsent, hlog⟩ := hnew
  have hlimit := limit_of_fresh fresh
  have hnone : p.idle = [] := by
    have hroom := balanced.room
    rw [← List.length_eq_zero_iff]
    omega
  have hnobody : p.permits = 0 := by
    have hpermits := balanced.permits
    omega
  have hacquires : p.acquires.map (·.shift p.opened) = p.acquires := by
    refine (List.map_congr_left fun k hk => ?_).trans (List.map_id _)
    obtain ⟨a, ha⟩ := List.mem_iff_getElem?.1 hk
    have hphase : p.phase? a = some k.phase := by rw [phase?, ha, Option.map_some]
    rw [Acquire.shift, Phase.shift_of_isEarly (h.early fresh hphase)
      (not_isInitialising_of_alone alone hphase)]
    rfl
  injection hterms with hconnector hsize hage htimeout hkeep
  simp only [after, hinit, hidle, hpermits, hconnections, hsent, hlog, hacquires, ← hconnector,
    ← hsize, ← hage, ← htimeout, ← hkeep, List.map_nil, List.append_nil]
  rw [← fresh, ← hnone, ← hnobody]

theorem blank_of_alone (s : Settings) (connector : Connector) (ss : List Step)
    (fresh : ((ofSettings s connector).run ss).isInitialised = false)
    (alone : ((ofSettings s connector).run ss).isInitialising = false) :
    Blank (ofSettings s connector) ((ofSettings s connector).run ss) := by
  have balanced := (balanced_ofSettings s connector).run ss
  have unopened := unopened_run s connector ss
  have hterms := terms_run (ofSettings s connector) ss
  generalize (ofSettings s connector).run ss = p at fresh alone balanced unopened hterms ⊢
  have hlimit := limit_of_fresh fresh
  refine ⟨fresh, ?_, ?_, ?_, ?_, ?_⟩
  · have hroom := balanced.room
    rw [← List.length_eq_zero_iff]
    omega
  · have hpermits := balanced.permits
    omega
  · intro c
    by_contra alive
    obtain ⟨a, cs, stage, ha, -⟩ := unopened.owned fresh (by simpa using alive)
    cases not_isInitialising_of_alone alone ha
  · intro a ha
    have hbegins : p.step (.enter a) =
        (p.note a [event .info "opening connection pool"
          [p.urlField, ⟨"size", .number p.size⟩]]).connect a (.initial []) := by
      simp [step, enter, ha, fresh, alone]
    rw [hbegins]
    exact phase?_setPhase_self ha
  · intro more
    rw [run_after]
    congr 1
    exact unopened.eq_after balanced fresh alone hterms ⟨rfl, rfl, rfl, rfl, rfl, rfl⟩

end Pool
end RoleLookup.Directory
