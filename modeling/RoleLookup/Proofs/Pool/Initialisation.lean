import RoleLookup.Proofs.Pool.Opening

/-!
# Attempts to open a pool

An acquire that opens a pool gets an answer after the other, until it has as many connections as the
pool has room for or one of them cannot be opened.

* `Stage.Fails`, `Stage.Succeeds`, the answers that end the opening of one connection;
* `Outcome`, where such an acquire is after a step, and `outcome_step`;
* `answered`, how many answers an acquire gets in a run, and `attempt_ends`, enough of them end the
  attempt;
* `opened_once_all_or_nothing`, all that can come of opening a pool.
-/

namespace RoleLookup.Directory
namespace Pool

variable {p q : Pool} {s : Step} {ss : List Step} {a b c : Nat} {phase phase' : Phase}
  {cs : List Nat} {stage : Stage}

/-! ### Answers -/

/-- A step tells an acquire for good that its connection could not be opened. -/
inductive Stage.Fails (a : Nat) : Stage → Step → Prop
  | refused {cause} : Fails a .connecting (.connected a (.error cause))
  | unbound {c e} : Fails a (.unbinding c e) (.unbound a)

/-- A step tells an acquire that its connection is ready. -/
inductive Stage.Succeeds (p : Pool) (a : Nat) : Stage → Step → Nat → Prop
  | greet (nobody : p.connector.bindDn.isEmpty = true) :
      Succeeds p a .connecting (.connected a (.ok ())) p.opened
  | accept {c answer} (ok : bindError? p.connector.bindDn answer = none) :
      Succeeds p a (.binding c) (.bound a answer) c

/-- A step tells an acquire how the opening of its connection goes on, and it goes on. -/
inductive Stage.Proceeds (p : Pool) (a : Nat) : Stage → Step → Stage → Prop
  | bind (somebody : p.connector.bindDn.isEmpty = false) :
      Proceeds p a .connecting (.connected a (.ok ())) (.binding p.opened)
  | reject {c answer e} (bad : bindError? p.connector.bindDn answer = some e) :
      Proceeds p a (.binding c) (.bound a answer) (.unbinding c e)

/-- Whether a step is the answer that an acquire waits for. -/
def Stage.isAnswer (a : Nat) : Stage → Step → Bool
  | .connecting, .connected b _ | .binding _, .bound b _ | .unbinding .., .unbound b => b == a
  | _, _ => false

theorem answer_cases (p : Pool) (h : stage.isAnswer a s = true) :
    stage.Fails a s ∨ (∃ c, stage.Succeeds p a s c) ∨ ∃ stage', stage.Proceeds p a s stage' := by
  cases stage with
  | connecting =>
    cases s with
    | connected b answer =>
      obtain rfl : b = a := by simpa [Stage.isAnswer] using h
      cases answer with
      | error cause => exact .inl .refused
      | ok =>
        cases hdn : p.connector.bindDn.isEmpty with
        | true => exact .inr (.inl ⟨_, .greet hdn⟩)
        | false => exact .inr (.inr ⟨_, .bind hdn⟩)
    | _ => cases h
  | binding c =>
    cases s with
    | bound b answer =>
      obtain rfl : b = a := by simpa [Stage.isAnswer] using h
      cases herror : bindError? p.connector.bindDn answer with
      | none => exact .inr (.inl ⟨_, .accept herror⟩)
      | some e => exact .inr (.inr ⟨_, .reject herror⟩)
    | _ => cases h
  | unbinding c e =>
    cases s with
    | unbound b =>
      obtain rfl : b = a := by simpa [Stage.isAnswer] using h
      exact .inl .unbound
    | _ => cases h

/-- An acquire that opens a connection waits, unless it gets an answer or its caller gives up. -/
theorem phase?_of_no_answer {purpose : Purpose} (ha : p.phase? a = some (.opening purpose stage))
    (h : stage.isAnswer a s = false) (hs : s ≠ .abandon a) : (p.step s).phase? a = p.phase? a := by
  obtain ⟨ph, hph, rfl | g⟩ := phase?_step ha s
  · rw [hph, ha]
  · cases g with
    | abandon => exact absurd rfl hs
    | _ => simp [Stage.isAnswer] at h

/-! ### What an answer does -/

/-- A pool has been opened with some connections, one at least and not too many. -/
structure OpenWith (p : Pool) (cs : List Nat) : Prop where
  isInitialised : p.isInitialised = true
  idle : p.idle = cs
  permits : p.permits = p.size
  nonempty : cs ≠ []
  room : cs.length ≤ p.size

theorem initialise_openWith (ha : p.phase? a = some phase) (hcs : cs ≠ [])
    (room : cs.length ≤ p.size) :
    (p.initialise a cs).phase? a = some .queued ∧ (p.initialise a cs).OpenWith cs :=
  ⟨phase?_setPhase_self (p := { p with isInitialised := true, idle := cs, permits := p.size }) ha,
    rfl, rfl, rfl, hcs, room⟩

theorem step_of_fails (ha : p.phase? a = some (.opening (.initial cs) stage))
    (h : stage.Fails a s) : ∃ (r : Pool) (e : Error), r.acquires = p.acquires ∧
      r.books = p.books ∧ r.size = p.size ∧ p.step s = r.openingFailed a (.initial cs) e := by
  cases h with
  | refused =>
    simp only [step, connected, ha]
    exact ⟨p.note a _, _, rfl, rfl, rfl, rfl⟩
  | unbound =>
    simp only [step, Pool.unbound, ha]
    exact ⟨p, _, rfl, rfl, rfl, rfl⟩

/-- With a connection at hand, an acquire makes do with what it has. -/
theorem opens_of_fails (balanced : p.Balanced)
    (ha : p.phase? a = some (.opening (.initial cs) stage)) (h : stage.Fails a s) (hcs : cs ≠ []) :
    (p.step s).phase? a = some .queued ∧ (p.step s).OpenWith cs := by
  obtain ⟨r, e, hr, -, hsize, hstep⟩ := step_of_fails ha h
  have room : cs.length ≤ r.size := hsize ▸ Nat.le_of_lt (balanced.filling ha)
  rw [hstep]
  cases cs with
  | nil => exact absurd rfl hcs
  | cons c cs => exact initialise_openWith (p := r.note a _) ((phase?_congr hr a).trans ha) hcs room

/-- Without one, it fails and changes nothing else. -/
theorem failed_of_fails (ha : p.phase? a = some (.opening (.initial []) stage))
    (h : stage.Fails a s) : ∃ e, (p.step s).acquires = (p.setPhase a (.failed e)).acquires ∧
      (p.step s).books = p.books := by
  obtain ⟨r, e, hr, hbooks, -, hstep⟩ := step_of_fails ha h
  rw [hstep]
  exact ⟨initialisationError e, congrArg (List.modify · a _) hr, hbooks⟩

theorem connected_ok {purpose : Purpose} (ha : p.phase? a = some (.opening purpose .connecting)) :
    p.connected a (.ok ()) = p.greet a purpose := by
  simp only [connected, ha]
  rfl

theorem step_of_succeeds (ha : p.phase? a = some (.opening (.initial cs) stage))
    (h : stage.Succeeds p a s c) : ∃ r : Pool, r.phase? a = p.phase? a ∧ r.size = p.size ∧
      p.step s = r.ready a (.initial cs) c := by
  cases h with
  | greet nobody =>
    rw [step, connected_ok ha, greet, if_pos nobody]
    exact ⟨(p.extend.note a _).note a _, rfl, rfl, rfl⟩
  | accept ok =>
    simp only [step, bound, ha, note_connector, ok]
    exact ⟨p.note a _, ha, rfl, rfl⟩

/-- A connection that is ready is kept, and another one is opened if there is room. -/
theorem keeps_of_succeeds (balanced : p.Balanced)
    (ha : p.phase? a = some (.opening (.initial cs) stage)) (h : stage.Succeeds p a s c) :
    (cs.length + 1 < p.size ∧
      (p.step s).phase? a = some (.opening (.initial (c :: cs)) .connecting)) ∨
    (p.size ≤ cs.length + 1 ∧
      (p.step s).phase? a = some .queued ∧ (p.step s).OpenWith (c :: cs)) := by
  obtain ⟨r, hr, hsize, hstep⟩ := step_of_succeeds ha h
  have hrefresh : (r.refresh c).phase? a = some (.opening (.initial cs) stage) := hr.trans ha
  have hroom : cs.length < r.size := hsize ▸ balanced.filling ha
  rw [hstep, ← hsize, ready]
  split
  · rename_i room
    exact .inl ⟨room, phase?_setPhase_self hrefresh⟩
  · rename_i full
    exact .inr ⟨Nat.le_of_not_lt full,
      initialise_openWith hrefresh (List.cons_ne_nil c cs) hroom⟩

theorem phase?_of_proceeds {purpose : Purpose} {stage' : Stage}
    (ha : p.phase? a = some (.opening purpose stage)) (h : stage.Proceeds p a s stage') :
    (p.step s).phase? a = some (.opening purpose stage') := by
  cases h with
  | bind somebody =>
    rw [step, connected_ok ha, greet, if_neg (by simp [somebody])]
    exact phase?_setPhase_self (p := p.extend) ha
  | @reject c answer e bad =>
    simp only [step, bound, ha, note_connector, bad]
    have hunbound (events : List Log.Event) : ((p.note a events).unbind c).phase? a =
        some (.opening purpose (.binding c)) := by
      rw [phase?_congr acquires_unbind, phase?_note, ha]
    exact phase?_setPhase_self (hunbound _)

theorem abandon_initial (ha : p.phase? a = some (.opening (.initial cs) stage)) :
    (p.abandon a).acquires = (p.setPhase a .abandoned).acquires ∧
      (p.abandon a).books = p.books := by
  have habandon : p.abandon a =
      (p.lose (ownConnections (.initial cs) stage)).setPhase a .abandoned := by
    simp only [abandon, ha]
    rfl
  rw [habandon]
  exact ⟨congrArg (List.modify · a _) (acquires_lose _), books_lose _⟩

/-! ### What comes of an attempt -/

/-- Where an acquire is after a step, if it opens a pool and has opened some connections. -/
inductive Outcome (new p q : Pool) (a : Nat) (cs : List Nat) (stage : Stage) (s : Step) : Prop
  /-- The step is not for it. -/
  | waits (h : stage.isAnswer a s = false) (hs : s ≠ .abandon a)
      (hq : q.phase? a = some (.opening (.initial cs) stage)) (fresh : q.isInitialised = false)
  | proceeds {stage'} (h : stage.Proceeds p a s stage')
      (hq : q.phase? a = some (.opening (.initial cs) stage')) (fresh : q.isInitialised = false)
  /-- There is room for another connection. -/
  | keeps {c : Nat} (h : stage.Succeeds p a s c) (room : cs.length + 1 < p.size)
      (hq : q.phase? a = some (.opening (.initial (c :: cs)) .connecting))
      (fresh : q.isInitialised = false)
  /-- There is no more room. -/
  | completes {c : Nat} (h : stage.Succeeds p a s c) (full : p.size ≤ cs.length + 1)
      (hq : q.phase? a = some .queued) (opened : q.OpenWith (c :: cs))
  /-- A later connection could not be opened. -/
  | makesDo (h : stage.Fails a s) (later : cs ≠ []) (hq : q.phase? a = some .queued)
      (opened : q.OpenWith cs)
  /-- The first connection could not be opened. -/
  | fails {e} (h : stage.Fails a s) (first : cs = []) (hq : q.phase? a = some (.failed e))
      (others : ∀ b, b ≠ a → q.phase? b = p.phase? b) (blank : Blank new q)
  | leaves (hs : s = .abandon a) (hq : q.phase? a = some .abandoned)
      (others : ∀ b, b ≠ a → q.phase? b = p.phase? b) (blank : Blank new q)

/-- Nobody opens the pool once the acquire that did so has ended. -/
theorem alone_of_ended (balanced : p.Balanced) (ha : p.phase? a = some phase)
    (opens : phase.isInitialising = true) (ended : phase'.isInitialising = false)
    (hq : q.acquires = (p.setPhase a phase').acquires) : q.isInitialising = false := by
  have hmove := number_of_move Phase.isInitialising ha hq
  have hsole := balanced.sole
  simp only [opens, ended, Bool.toNat_true, Bool.toNat_false] at hmove
  have hnone : q.number Phase.isInitialising = 0 := by omega
  rw [number, List.countP_eq_zero] at hnone
  simpa [isInitialising] using hnone

section Attempt

variable {settings : Settings} {connector : Connector} {t : Step}

/-- An acquire that ends without having opened the pool leaves nothing behind. -/
theorem blank_of_ended (hp : (ofSettings settings connector).run ss = p)
    (ha : p.phase? a = some (.opening (.initial cs) stage)) (ended : phase'.isInitialising = false)
    (hq : (p.step t).acquires = (p.setPhase a phase').acquires)
    (hbooks : (p.step t).books = p.books) :
    (p.step t).phase? a = some phase' ∧ (∀ b, b ≠ a → (p.step t).phase? b = p.phase? b) ∧
      Blank (ofSettings settings connector) (p.step t) := by
  subst hp
  have balanced := (balanced_ofSettings settings connector).run ss
  have fresh := balanced.fresh_of_isInitialising ha rfl
  refine ⟨(phase?_congr hq a).trans (phase?_setPhase_self ha), ?_, ?_⟩
  · intro b hb
    rw [phase?_congr hq, phase?_setPhase]
    simp [Ne.symm hb]
  · have hfresh := (congrArg Books.isInitialised hbooks).trans fresh
    have halone := alone_of_ended balanced ha rfl ended hq
    rw [← run_concat] at hfresh halone ⊢
    exact blank_of_alone settings connector (ss ++ [t]) hfresh halone

theorem outcome_step (hp : (ofSettings settings connector).run ss = p)
    (ha : p.phase? a = some (.opening (.initial cs) stage)) (t : Step) :
    Outcome (ofSettings settings connector) p (p.step t) a cs stage t := by
  have balanced : p.Balanced := hp ▸ (balanced_ofSettings settings connector).run ss
  have hnext := balanced.step t
  by_cases hs : t = .abandon a
  · subst hs
    obtain ⟨hacquires, hbooks⟩ := abandon_initial ha
    obtain ⟨hq, others, blank⟩ := blank_of_ended (t := .abandon a) hp ha rfl hacquires hbooks
    exact .leaves rfl hq others blank
  cases h : stage.isAnswer a t with
  | false =>
    have hq := (phase?_of_no_answer ha h hs).trans ha
    exact .waits h hs hq (hnext.fresh_of_isInitialising hq rfl)
  | true =>
    rcases answer_cases p h with fails | ⟨c, succeeds⟩ | ⟨stage', proceeds⟩
    · by_cases hcs : cs = []
      · subst hcs
        obtain ⟨e, hacquires, hbooks⟩ := failed_of_fails ha fails
        obtain ⟨hq, others, blank⟩ := blank_of_ended hp ha rfl hacquires hbooks
        exact .fails fails rfl hq others blank
      · obtain ⟨hq, opened⟩ := opens_of_fails balanced ha fails hcs
        exact .makesDo fails hcs hq opened
    · rcases keeps_of_succeeds balanced ha succeeds with ⟨room, hq⟩ | ⟨full, hq, opened⟩
      · exact .keeps succeeds room hq (hnext.fresh_of_isInitialising hq rfl)
      · exact .completes succeeds full hq opened
    · have hq := phase?_of_proceeds ha proceeds
      exact .proceeds proceeds hq (hnext.fresh_of_isInitialising hq rfl)

end Attempt

/-! ### An attempt ends -/

/-- Whether a step is the answer that an acquire waits for in some state. -/
def awaits (p : Pool) (a : Nat) (s : Step) : Bool :=
  match p.phase? a with
  | some (.opening _ stage) => stage.isAnswer a s
  | _ => false

/-- How many answers an acquire gets in a run. -/
def answered (p : Pool) (a : Nat) : List Step → Nat
  | [] => 0
  | s :: ss => (p.awaits a s).toNat + (p.step s).answered a ss

/-- How many answers there are to come at most until a connection is ready or could not be opened.
-/
def Stage.rank : Stage → Nat
  | .connecting => 3
  | .binding _ => 2
  | .unbinding .. => 1

theorem Stage.Proceeds.rank_lt {stage' : Stage} (h : stage.Proceeds p a s stage') :
    stage'.rank < stage.rank := by
  cases h <;> simp [Stage.rank]

theorem Stage.rank_pos (stage : Stage) : 0 < stage.rank := by
  cases stage <;> simp [Stage.rank]

theorem Stage.rank_le (stage : Stage) : stage.rank ≤ 3 := by
  cases stage <;> simp [Stage.rank]

theorem failed_run {e : Error} (h : p.phase? a = some (.failed e)) (ss : List Step) :
    (p.run ss).phase? a = some (.failed e) := by
  refine run_induction (P := fun p => p.phase? a = some (.failed e)) ?_ h
  intro p s _ h
  obtain ⟨ph, hph, rfl | g⟩ := phase?_step h s
  · exact hph
  · cases g with
    | abandon hp => exact hp.elim

/-- An attempt ends when its acquire has got so many answers that there is no room left. -/
theorem attempt_ends (balanced : p.Balanced)
    (ha : p.phase? a = some (.opening (.initial cs) stage)) (stays : .abandon a ∉ ss)
    (enough : 3 * (p.size - cs.length - 1) + stage.rank ≤ p.answered a ss) :
    (p.run ss).isInitialised = true ∨ (cs = [] ∧ ∃ e, (p.run ss).phase? a = some (.failed e)) := by
  induction ss generalizing p cs stage with
  | nil =>
    have := stage.rank_pos
    simp only [answered] at enough
    omega
  | cons t ss ih =>
    have hawaits : p.awaits a t = stage.isAnswer a t := by simp only [awaits, ha]
    rw [answered, hawaits] at enough
    rw [List.mem_cons, not_or] at stays
    have hnext := balanced.step t
    rw [run_cons]
    cases h : stage.isAnswer a t with
    | false =>
      have hq := (phase?_of_no_answer ha h (Ne.symm stays.1)).trans ha
      refine ih hnext hq stays.2 ?_
      rw [size_step]
      simpa [h] using enough
    | true =>
      rw [h, Bool.toNat_true] at enough
      rcases answer_cases p h with fails | ⟨c, succeeds⟩ | ⟨stage', proceeds⟩
      · by_cases hcs : cs = []
        · subst hcs
          obtain ⟨e, hacquires, -⟩ := failed_of_fails ha fails
          have hq := (phase?_congr hacquires a).trans (phase?_setPhase_self ha)
          exact .inr ⟨rfl, e, failed_run hq ss⟩
        · exact .inl (isInitialised_run (opens_of_fails balanced ha fails hcs).2.isInitialised ss)
      · rcases keeps_of_succeeds balanced ha succeeds with ⟨room, hq⟩ | ⟨-, -, opened⟩
        · have hpos := stage.rank_pos
          rcases ih hnext hq stays.2 (by
            rw [size_step, List.length_cons, Stage.rank]
            omega) with hopened | ⟨hnil, -⟩
          · exact .inl hopened
          · cases hnil
        · exact .inl (isInitialised_run opened.isInitialised ss)
      · have hlt := proceeds.rank_lt
        refine ih hnext (phase?_of_proceeds ha proceeds) stays.2 ?_
        rw [size_step]
        omega

/-! ### All that can come of opening a pool -/

/-- **A pool is opened once, and all or nothing.** In every run, one acquire at most opens the pool,
and nobody does so again once it is open. Who opens it goes on from connection to connection until
there is no more room or one cannot be opened. If that is the first one, this acquire fails, no
other one is concerned, nothing is left behind, and the pool is as if new; so it is if the caller
gives up. If it is a later one, the pool is open with the connections that there are. After enough
answers the attempt is over. -/
theorem opened_once_all_or_nothing (s : Settings) (connector : Connector) (ss : List Step) :
    let new := ofSettings s connector
    let p := new.run ss
    p.number Phase.isInitialising + p.isInitialised.toNat ≤ 1 ∧
    (p.isInitialised = true → ∀ more, (p.run more).isInitialised = true ∧
      (p.run more).number Phase.isInitialising = 0) ∧
    ∀ a cs stage, p.phase? a = some (.opening (.initial cs) stage) →
      (∀ t, Outcome new p (p.step t) a cs stage t) ∧
      ∀ more, .abandon a ∉ more → 3 * p.size ≤ p.answered a more →
        (p.run more).isInitialised = true ∨
        (cs = [] ∧ ∃ e, (p.run more).phase? a = some (.failed e)) := by
  intro new p
  have balanced : p.Balanced := (balanced_ofSettings s connector).run ss
  refine ⟨balanced.sole, ?_, ?_⟩
  · intro opened more
    have hopened := isInitialised_run opened more
    have hsole := (balanced.run more).sole
    rw [hopened, Bool.toNat_true] at hsole
    exact ⟨hopened, by omega⟩
  · intro a cs stage ha
    refine ⟨outcome_step rfl ha, ?_⟩
    intro more stays enough
    refine attempt_ends balanced ha stays ?_
    have hfilling := balanced.filling ha
    have hrank := stage.rank_le
    omega

/-- A pool of two and two acquires. If the first connection is refused, the other acquire still
waits and the pool is as if new; if the second one is, the pool is open with one connection. -/
theorem opened_once_all_or_nothing_refused :
    let settings : Settings := { host := "ldap", port := 389, searchBase := "", poolSize := 2 }
    let connector : Connector :=
      ⟨⟨"ldap", none, "", none, none⟩, false, 3000, 3000, none, "", ""⟩
    let new := ofSettings settings connector
    let waiting : List Step := [.start [], .start [], .enter 0, .enter 1]
    let refused : Step := .connected 0 (.error .timeout)
    let p := new.run waiting
    let q := new.run (waiting ++ [.connected 0 (.ok ())])
    Blank new (p.step refused) ∧ (p.step refused).phase? 1 = some .started ∧
    (q.step refused).OpenWith [0] ∧ (q.step refused).number Phase.isInitialising = 0 := by
  intro settings connector new waiting refused p q
  have hp : p.phase? 0 = some (.opening (.initial []) .connecting) := by decide
  have hq : q.phase? 0 = some (.opening (.initial [0]) .connecting) := by decide
  obtain ⟨hfirst, -⟩ := (opened_once_all_or_nothing settings connector waiting).2.2 0 [] _ hp
  obtain ⟨hlater, -⟩ := (opened_once_all_or_nothing settings connector _).2.2 0 [0] _ hq
  have hopened : (q.step refused).OpenWith [0] := by
    cases hlater (.connected 0 (.error .timeout)) with
    | waits h => cases h
    | proceeds h | keeps h | completes h => cases h
    | makesDo _ _ _ opened => exact opened
    | fails _ first => cases first
    | leaves hs => cases hs
  have hblank : Blank new (p.step refused) ∧ (p.step refused).phase? 1 = p.phase? 1 := by
    cases hfirst (.connected 0 (.error .timeout)) with
    | waits h => cases h
    | proceeds h | keeps h | completes h => cases h
    | makesDo _ later => exact absurd rfl later
    | fails _ _ _ others blank => exact ⟨blank, others 1 (by decide)⟩
    | leaves hs => cases hs
  refine ⟨hblank.1, hblank.2.trans (by decide), hopened, ?_⟩
  have hrun : q.step refused = new.run ((waiting ++ [.connected 0 (.ok ())]) ++ [refused]) :=
    (run_concat ..).symm
  rw [hrun] at hopened ⊢
  exact ((opened_once_all_or_nothing settings connector _).2.1 hopened.isInitialised []).2

end Pool
end RoleLookup.Directory
