import RoleLookup.Directory.Pool.Basic

/-!
# What one step of the pool can do

`Fires` lists what a step can do, with its guards and up to the events that it logs. `step_fires`
says that the list is complete, so that no other module has to open the steps.

* `run_induction`, a property that every step keeps holds after a run;
* `phase?_setPhase`, and the parts of the pool that each part of a step leaves as they are;
* `Readies`, `GivesUp`, what an acquire does with a connection that it has opened, and without one.
-/

namespace RoleLookup.Directory
namespace Pool

/-! ### Everything a step can do -/

/-- The pool with a new connection. -/
def extend (p : Pool) : Pool :=
  { p with connections := p.connections ++ [{ readySince := p.now : Connection }] }

/-- The pool with a connection that is ready from now on. -/
def refresh (p : Pool) (c : Nat) : Pool :=
  { p with connections := p.connections.modify c fun k => { k with readySince := p.now } }

/-- The pool without connections that nobody else knows of. -/
def lose (p : Pool) (cs : List Nat) : Pool := cs.foldl (·.setFate · .dropped) p

/-- What an acquire does with a connection that it has opened. -/
inductive Readies (p : Pool) (a c : Nat) : Purpose → Pool → Prop
  | lend : Readies p a c .loan (p.setPhase a (.holding c))
  | more {cs} (events) (room : cs.length + 1 < p.size) : Readies p a c (.initial cs)
      ((p.note a events).setPhase a (.opening (.initial (c :: cs)) .connecting))
  | full {cs} (full : p.size ≤ cs.length + 1) :
      Readies p a c (.initial cs) (p.initialise a (c :: cs))

/-- What an acquire does when it could not open a connection. -/
inductive GivesUp (p : Pool) (a : Nat) (e : Error) : Purpose → Pool → Prop
  | loan : GivesUp p a e .loan ({ p with permits := p.permits + 1 }.setPhase a (.failed e))
  | first : GivesUp p a e (.initial []) (p.setPhase a (.failed (initialisationError e)))
  | later {cs} (events) (hcs : cs ≠ []) :
      GivesUp p a e (.initial cs) ((p.note a events).initialise a cs)

/-- What a step of the pool can do, up to the events that it logs. -/
inductive Fires (p : Pool) : Step → Pool → Prop
  /-- The step does not apply. -/
  | idle {s} : Fires p s p
  | start (spans) :
      Fires p (.start spans) { p with acquires := p.acquires ++ [({ spans } : Acquire)] }
  | queue {a} (ha : p.phase? a = some .started) (ready : p.isInitialised = true) :
      Fires p (.enter a) (p.setPhase a .queued)
  | begin {a} (events) (ha : p.phase? a = some .started) (fresh : p.isInitialised = false)
      (alone : p.isInitialising = false) :
      Fires p (.enter a) ((p.note a events).setPhase a (.opening (.initial []) .connecting))
  | refused {a purpose cause q} (events)
      (ha : p.phase? a = some (.opening purpose .connecting))
      (hq : (p.note a events).GivesUp a (.connect p.connector.url.text cause) purpose q) :
      Fires p (.connected a (.error cause)) q
  | anonymous {a purpose q} (events) (ha : p.phase? a = some (.opening purpose .connecting))
      (nobody : p.connector.bindDn.isEmpty = true)
      (hq : ((p.extend.note a events).refresh p.connections.length).Readies a
        p.connections.length purpose q) :
      Fires p (.connected a (.ok ())) q
  | bind {a purpose} (events) (ha : p.phase? a = some (.opening purpose .connecting))
      (somebody : p.connector.bindDn.isEmpty = false) :
      Fires p (.connected a (.ok ())) (((p.extend.note a events).send
        (.bind p.connections.length p.connector.bindDn p.connector.bindPassword)).setPhase a
          (.opening purpose (.binding p.connections.length)))
  | accepted {a purpose c answer q} (events)
      (ha : p.phase? a = some (.opening purpose (.binding c)))
      (ok : bindError? p.connector.bindDn answer = none)
      (hq : ((p.note a events).refresh c).Readies a c purpose q) : Fires p (.bound a answer) q
  | rejected {a purpose c answer e} (events)
      (ha : p.phase? a = some (.opening purpose (.binding c)))
      (bad : bindError? p.connector.bindDn answer = some e) :
      Fires p (.bound a answer) (((p.note a events).unbind c).setPhase a
        (.opening purpose (.unbinding c e)))
  | giveUp {a purpose c e q} (ha : p.phase? a = some (.opening purpose (.unbinding c e)))
      (hq : p.GivesUp a e purpose q) : Fires p (.unbound a) q
  | grant {a} (ha : p.phase? a = some .queued) (free : 0 < p.permits) :
      Fires p (.grant a) ({ p with permits := p.permits - 1 }.setPhase a .permitted)
  | expire {a} (events) (ha : p.phase? a = some .queued) (none : p.permits = 0) :
      Fires p (.expire a) ((p.note a events).setPhase a
        (.failed (.poolExhausted (.ofMillis p.checkoutTimeout))))
  | dial {a} (events) (ha : p.phase? a = some .permitted) (none : p.idle = []) :
      Fires p (.take a) ((p.note a events).setPhase a (.opening .loan .connecting))
  | dropClosed {a c idle} (events) (ha : p.phase? a = some .permitted)
      (top : p.idle = c :: idle) (dead : p.isAlive c = false) :
      Fires p (.take a) ({ p with idle }.note a events)
  | dropExpired {a c idle} (events) (ha : p.phase? a = some .permitted)
      (top : p.idle = c :: idle) (alive : p.isAlive c = true) (old : p.isExpired c = true) :
      Fires p (.take a) (({ p with idle }.note a events).unbind c)
  | reuse {a c idle} (ha : p.phase? a = some .permitted) (top : p.idle = c :: idle)
      (alive : p.isAlive c = true) (young : p.isExpired c = false) :
      Fires p (.take a) ({ p with idle }.setPhase a (.holding c))
  | search {a c} (query) (ha : p.phase? a = some (.holding c)) :
      Fires p (.search a query) (p.send (.search c query))
  | forget {a c} (events) (ha : p.phase? a = some (.holding c)) (dead : p.isAlive c = false) :
      Fires p (.giveBack a) ((p.setPhase a .returned).note a events)
  | retire {a c} (ha : p.phase? a = some (.holding c)) (alive : p.isAlive c = true)
      (unfit : p.keepAlive = false ∨ p.isExpired c = true) :
      Fires p (.giveBack a) ((p.setPhase a .returned).unbind c)
  | keep {a c} (ha : p.phase? a = some (.holding c)) (alive : p.isAlive c = true)
      (kept : p.keepAlive = true) (young : p.isExpired c = false) :
      Fires p (.giveBack a) { p.setPhase a .returned with idle := c :: p.idle }
  | free {a} (ha : p.phase? a = some .returned) :
      Fires p (.free a) ({ p with permits := p.permits + 1 }.setPhase a .released)
  | leave {a phase} (ha : p.phase? a = some phase) (hp : phase = .started ∨ phase = .queued) :
      Fires p (.abandon a) (p.setPhase a .abandoned)
  | cede {a} (ha : p.phase? a = some .permitted) :
      Fires p (.abandon a) ({ p with permits := p.permits + 1 }.setPhase a .abandoned)
  | loseInitial {a cs stage} (ha : p.phase? a = some (.opening (.initial cs) stage)) :
      Fires p (.abandon a) ((p.lose (ownConnections (.initial cs) stage)).setPhase a .abandoned)
  | loseLoan {a stage} (ha : p.phase? a = some (.opening .loan stage)) :
      Fires p (.abandon a) ({ p.lose (ownConnections .loan stage) with
        permits := (p.lose (ownConnections .loan stage)).permits + 1 }.setPhase a .abandoned)
  | close (c) : Fires p (.close c) (p.setFate c .closed)
  | advance (millis) : Fires p (.advance millis) { p with now := p.now + millis }

variable {p q : Pool} {s : Step} {ss : List Step} {a b c : Nat}

/-! ### Runs -/

/-- A property that every step keeps is kept by a run. -/
theorem run_induction {P : Pool → Prop} (keep : ∀ p s, s ∈ ss → P p → P (p.step s))
    (h : P p) : P (p.run ss) := by
  induction ss generalizing p with
  | nil => exact h
  | cons s ss ih =>
    exact ih (fun p t ht => keep p t (List.mem_cons_of_mem s ht)) (keep p s List.mem_cons_self h)

theorem run_concat (p : Pool) (ss : List Step) (s : Step) :
    p.run (ss ++ [s]) = (p.run ss).step s := by
  rw [run_append, run_cons, run_nil]

theorem held?_eq_some : p.held? a = some c ↔ p.phase? a = some (.holding c) := by
  unfold held?
  split
  · rename_i d hp
    simp [hp]
  · rename_i hp
    constructor
    · nofun
    · intro h
      exact absurd h (hp c)

theorem error?_eq_some {e : Error} : p.error? a = some e ↔ p.phase? a = some (.failed e) := by
  unfold error?
  split
  · rename_i d hp
    simp [hp]
  · rename_i hp
    constructor
    · nofun
    · intro h
      exact absurd h (hp e)

/-! ### What the parts of steps leave as it is -/

section Frames

variable (p) (a c : Nat) (events : List Log.Event) (phase : Phase) (r : Request) (fate : Fate)

@[simp] theorem note_connector : (p.note a events).connector = p.connector := rfl
@[simp] theorem note_size : (p.note a events).size = p.size := rfl
@[simp] theorem note_isInitialised : (p.note a events).isInitialised = p.isInitialised := rfl
@[simp] theorem note_idle : (p.note a events).idle = p.idle := rfl
@[simp] theorem note_permits : (p.note a events).permits = p.permits := rfl
@[simp] theorem note_connections : (p.note a events).connections = p.connections := rfl
@[simp] theorem note_acquires : (p.note a events).acquires = p.acquires := rfl

theorem note_note (more : List Log.Event) :
    (p.note a events).note a more = p.note a (events ++ more) := by
  simp [note]

@[simp] theorem setPhase_size : (p.setPhase a phase).size = p.size := rfl
@[simp] theorem setPhase_isInitialised :
    (p.setPhase a phase).isInitialised = p.isInitialised := rfl
@[simp] theorem setPhase_idle : (p.setPhase a phase).idle = p.idle := rfl
@[simp] theorem setPhase_permits : (p.setPhase a phase).permits = p.permits := rfl
@[simp] theorem setPhase_connections : (p.setPhase a phase).connections = p.connections := rfl

theorem phase?_setPhase (b : Nat) : (p.setPhase a phase).phase? b =
    (p.phase? b).map fun x => if a = b then phase else x := by
  simp only [phase?, setPhase, List.getElem?_modify]
  by_cases h : a = b <;> simp [h, Function.comp_def]

@[simp] theorem send_size : (p.send r).size = p.size := rfl
@[simp] theorem send_isInitialised : (p.send r).isInitialised = p.isInitialised := rfl
@[simp] theorem send_idle : (p.send r).idle = p.idle := rfl
@[simp] theorem send_permits : (p.send r).permits = p.permits := rfl
@[simp] theorem send_connections : (p.send r).connections = p.connections := rfl
@[simp] theorem send_acquires : (p.send r).acquires = p.acquires := rfl

/-- A connection that meets a fate changes nothing but the connections. -/
theorem setFate_eq : ∃ connections, connections.length = p.connections.length ∧
    p.setFate c fate = { p with connections } := by
  unfold setFate
  split
  · exact ⟨_, List.length_modify .., rfl⟩
  · exact ⟨_, rfl, rfl⟩

/-- A connection that is unbound changes nothing but the connections and what was sent. -/
theorem unbind_eq : ∃ connections sent, connections.length = p.connections.length ∧
    p.unbind c = { p with connections, sent } := by
  unfold unbind
  split
  · obtain ⟨connections, hlength, h⟩ := setFate_eq (p.send (.unbind c)) c .unbound
    exact ⟨_, _, hlength, h⟩
  · exact ⟨_, _, rfl, rfl⟩

/-- Connections that are lost change nothing but the connections. -/
theorem lose_eq (cs : List Nat) : ∃ connections,
    connections.length = p.connections.length ∧ p.lose cs = { p with connections } := by
  induction cs generalizing p with
  | nil => exact ⟨_, rfl, rfl⟩
  | cons c cs ih =>
    obtain ⟨ks, hks, h⟩ := setFate_eq p c .dropped
    obtain ⟨connections, hlength, hrest⟩ := ih (p.setFate c .dropped)
    rw [h] at hlength
    refine ⟨connections, hlength.trans hks, ?_⟩
    rw [lose, List.foldl_cons, ← lose, hrest, h]

end Frames

/-! ### The list is complete -/

theorem ready_readies (p : Pool) (a : Nat) (purpose : Purpose) (c : Nat) :
    (p.refresh c).Readies a c purpose (p.ready a purpose c) := by
  cases purpose with
  | loan => exact .lend
  | initial cs =>
    simp only [ready]
    split
    · rename_i room
      exact .more _ room
    · rename_i full
      exact .full (Nat.le_of_not_lt full)

theorem openingFailed_givesUp (p : Pool) (a : Nat) (purpose : Purpose) (e : Error) :
    p.GivesUp a e purpose (p.openingFailed a purpose e) := by
  cases purpose with
  | loan => exact .loan
  | initial cs =>
    cases cs with
    | nil => exact .first
    | cons c cs => exact .later _ (List.cons_ne_nil c cs)

theorem enter_fires (p : Pool) (a : Nat) : Fires p (.enter a) (p.enter a) := by
  unfold enter
  split
  · rename_i ha
    split
    · rename_i ready
      exact .queue ha ready
    · rename_i fresh
      split
      · exact .idle
      · rename_i alone
        rw [connect, note_note]
        exact .begin _ ha (by simpa using fresh) (by simpa using alone)
  · exact .idle

theorem connected_fires (p : Pool) (a : Nat) (answer : Except RequestError Unit) :
    Fires p (.connected a answer) (p.connected a answer) := by
  unfold connected
  split
  · rename_i purpose ha
    cases answer with
    | error cause => exact .refused _ ha (openingFailed_givesUp ..)
    | ok =>
      simp only
      split
      · rename_i nobody
        rw [note_note]
        exact .anonymous _ ha nobody (ready_readies (p.extend.note a _) a purpose _)
      · rename_i somebody
        rw [note_note]
        exact .bind _ ha (by simpa using somebody)
  · exact .idle

theorem bound_fires (p : Pool) (a : Nat) (answer : Except RequestError Result) :
    Fires p (.bound a answer) (p.bound a answer) := by
  unfold bound
  split
  · rename_i ha
    simp only [note_connector]
    split
    · rename_i ok
      exact .accepted _ ha ok (ready_readies ..)
    · rename_i bad
      exact .rejected _ ha bad
  · exact .idle

theorem unbound_fires (p : Pool) (a : Nat) : Fires p (.unbound a) (p.unbound a) := by
  unfold unbound
  split
  · rename_i ha
    exact .giveUp ha (openingFailed_givesUp ..)
  · exact .idle

theorem grant_fires (p : Pool) (a : Nat) : Fires p (.grant a) (p.grant a) := by
  unfold grant
  split
  · rename_i ha
    split
    · exact .idle
    · rename_i free
      exact .grant ha (Nat.pos_of_ne_zero free)
  · exact .idle

theorem expire_fires (p : Pool) (a : Nat) : Fires p (.expire a) (p.expire a) := by
  unfold expire
  split
  · rename_i ha
    split
    · rename_i none
      exact .expire _ ha none
    · exact .idle
  · exact .idle

theorem take_fires (p : Pool) (a : Nat) : Fires p (.take a) (p.take a) := by
  unfold take
  split
  · rename_i ha
    split
    · rename_i none
      exact .dial _ ha none
    · rename_i c idle top
      -- What is asked about the connection does not depend on the connections at rest.
      change Fires p _ (if !p.isAlive c then _ else if p.isExpired c then _ else _)
      split
      · rename_i dead
        exact .dropClosed _ ha top (by simpa using dead)
      · rename_i alive
        have alive : p.isAlive c = true := by simpa using alive
        split
        · rename_i old
          exact .dropExpired _ ha top alive old
        · rename_i young
          exact .reuse ha top alive (by simpa using young)
  · exact .idle

theorem search_fires (p : Pool) (a : Nat) (query : Query) :
    Fires p (.search a query) (p.search a query) := by
  unfold search
  split
  · rename_i ha
    exact .search query ha
  · exact .idle

theorem giveBack_fires (p : Pool) (a : Nat) : Fires p (.giveBack a) (p.giveBack a) := by
  unfold giveBack
  split
  · rename_i c ha
    -- Nor does it depend on the phase of an acquire.
    change Fires p _ (if !p.isAlive c then _ else if !p.keepAlive || p.isExpired c then _ else _)
    split
    · rename_i dead
      exact .forget _ ha (by simpa using dead)
    · rename_i alive
      have alive : p.isAlive c = true := by simpa using alive
      split
      · rename_i unfit
        exact .retire ha alive (by simpa using unfit)
      · rename_i fit
        obtain ⟨kept, young⟩ : p.keepAlive = true ∧ p.isExpired c = false := by simpa using fit
        exact .keep ha alive kept young
  · exact .idle

theorem free_fires (p : Pool) (a : Nat) : Fires p (.free a) (p.free a) := by
  unfold free
  split
  · rename_i ha
    exact .free ha
  · exact .idle

theorem abandon_fires (p : Pool) (a : Nat) : Fires p (.abandon a) (p.abandon a) := by
  unfold abandon
  split
  · rename_i ha
    exact .leave ha (.inl rfl)
  · rename_i ha
    exact .leave ha (.inr rfl)
  · rename_i ha
    exact .cede ha
  · rename_i purpose stage ha
    cases purpose with
    | loan => exact .loseLoan ha
    | initial cs => exact .loseInitial ha
  · exact .idle

/-- Each step does one of the things listed. -/
theorem step_fires (p : Pool) (s : Step) : Fires p s (p.step s) := by
  cases s with
  | start spans => exact .start spans
  | enter a => exact enter_fires p a
  | connected a answer => exact connected_fires p a answer
  | bound a answer => exact bound_fires p a answer
  | unbound a => exact unbound_fires p a
  | grant a => exact grant_fires p a
  | expire a => exact expire_fires p a
  | take a => exact take_fires p a
  | search a query => exact search_fires p a query
  | giveBack a => exact giveBack_fires p a
  | free a => exact free_fires p a
  | abandon a => exact abandon_fires p a
  | close c => exact .close c
  | advance millis => exact .advance millis

end Pool
end RoleLookup.Directory
