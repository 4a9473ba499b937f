import RoleLookup.Proofs.Pool.Step

/-!
# A pool with a past

Connections of which nothing is left make no difference to a pool but to the numbers of those that
come after them.

* `Step.shift` and so on, the same with connections numbered further on;
* `after`, a pool that comes after the connections and the records of another one;
* `step_after`, `run_after`, steps and runs do not see what was before.
-/

namespace RoleLookup.Directory
namespace Pool

/-! ### Numbered further on -/

section Shift

variable (n : Nat)

def Purpose.shift : Purpose → Purpose
  | .initial cs => .initial (cs.map (· + n))
  | .loan => .loan

def Stage.shift : Stage → Stage
  | .connecting => .connecting
  | .binding c => .binding (c + n)
  | .unbinding c e => .unbinding (c + n) e

def Phase.shift : Phase → Phase
  | .opening purpose stage => .opening (purpose.shift n) (stage.shift n)
  | .holding c => .holding (c + n)
  | phase => phase

def Acquire.shift (k : Acquire) : Acquire := { k with phase := k.phase.shift n }

def Request.shift : Request → Request
  | .bind c bindDn password => .bind (c + n) bindDn password
  | .search c query => .search (c + n) query
  | .unbind c => .unbind (c + n)

def Step.shift : Step → Step
  | .close c => .close (c + n)
  | s => s

end Shift

/-- The pool after the connections, the requests and the events of another one. -/
def after (p past : Pool) : Pool :=
  { p with
    idle := p.idle.map (· + past.opened)
    connections := past.connections ++ p.connections
    acquires := p.acquires.map (·.shift past.opened)
    sent := past.sent ++ p.sent.map (·.shift past.opened)
    log := past.log ++ p.log }

variable (p past : Pool) (a c : Nat)

/-! ### Parts of steps -/

@[simp] theorem after_connector : (p.after past).connector = p.connector := rfl
@[simp] theorem after_size : (p.after past).size = p.size := rfl
@[simp] theorem after_keepAlive : (p.after past).keepAlive = p.keepAlive := rfl
@[simp] theorem after_permits : (p.after past).permits = p.permits := rfl
@[simp] theorem after_isInitialised : (p.after past).isInitialised = p.isInitialised := rfl
@[simp] theorem after_idle : (p.after past).idle = p.idle.map (· + past.opened) := rfl

theorem opened_after : (p.after past).opened = p.opened + past.opened := by
  simp [after, opened, Nat.add_comm]

theorem modify_append_add {α : Type} (xs ys : List α) (i : Nat) (f : α → α) :
    (xs ++ ys).modify (i + xs.length) f = xs ++ ys.modify i f := by
  induction xs with
  | nil => rfl
  | cons x xs ih =>
    rw [List.cons_append, List.length_cons, ← Nat.add_assoc, List.modify_succ_cons, ih]
    rfl

theorem phase?_after : (p.after past).phase? a = (p.phase? a).map (·.shift past.opened) := by
  simp [phase?, after, Function.comp_def, Acquire.shift]

theorem setPhase_after (phase : Phase) :
    (p.setPhase a phase).after past = (p.after past).setPhase a (phase.shift past.opened) := by
  simp only [setPhase, after]
  congr 1
  apply List.ext_getElem?
  intro b
  simp only [List.getElem?_map, List.getElem?_modify]
  by_cases hab : a = b <;> cases p.acquires[b]? <;> simp [hab, Acquire.shift]

theorem note_after (events : List Log.Event) :
    (p.note a events).after past = (p.after past).note a events := by
  have hspans : ((p.after past).acquires[a]?).map (·.spans) = (p.acquires[a]?).map (·.spans) := by
    simp [after, Acquire.shift, Function.comp_def]
  simp only [note, hspans]
  simp [after]

theorem connection_after :
    (p.after past).connections[c + past.opened]? = p.connections[c]? := by
  simp [after, opened, List.getElem?_append_right]

theorem isAlive_after : (p.after past).isAlive (c + past.opened) = p.isAlive c := by
  rw [isAlive, isAlive, fate?, fate?, connection_after]

theorem isExpired_after : (p.after past).isExpired (c + past.opened) = p.isExpired c := by
  simp only [isExpired, connection_after]
  rfl

theorem setFate_after (fate : Fate) :
    (p.setFate c fate).after past = (p.after past).setFate (c + past.opened) fate := by
  unfold setFate
  rw [isAlive_after]
  split
  · simp only [after, opened, modify_append_add]
  · rfl

theorem send_after (r : Request) :
    (p.send r).after past = (p.after past).send (r.shift past.opened) := by
  simp [send, after]

theorem unbind_after : (p.unbind c).after past = (p.after past).unbind (c + past.opened) := by
  unfold unbind
  rw [isAlive_after]
  split
  · rw [setFate_after, send_after]
    rfl
  · rfl

theorem isInitialising_after : (p.after past).isInitialising = p.isInitialising := by
  have hphase (phase : Phase) :
      (phase.shift past.opened).isInitialising = phase.isInitialising := by
    rcases phase with _ | ⟨_ | _, _⟩ | _ | _ | _ | _ | _ | _ | _ <;> rfl
  simp [isInitialising, after, Acquire.shift, Function.comp_def, hphase]

theorem extend_after : p.extend.after past = (p.after past).extend := by
  simp [extend, after]

theorem refresh_after : (p.refresh c).after past = (p.after past).refresh (c + past.opened) := by
  simp only [refresh, after, opened, modify_append_add]

theorem lose_after (cs : List Nat) :
    (p.lose cs).after past = (p.after past).lose (cs.map (· + past.opened)) := by
  induction cs generalizing p with
  | nil => rfl
  | cons c cs ih =>
    rw [lose, List.foldl_cons, ← lose, ih, setFate_after]
    rfl

/-! ### Opening connections -/

theorem connect_after (purpose : Purpose) :
    (p.connect a purpose).after past = (p.after past).connect a (purpose.shift past.opened) := by
  rw [connect, setPhase_after, note_after]
  rfl

theorem initialise_after (cs : List Nat) :
    (p.initialise a cs).after past = (p.after past).initialise a (cs.map (· + past.opened)) := by
  rw [initialise, setPhase_after]
  rfl

theorem ready_after (purpose : Purpose) : (p.ready a purpose c).after past =
    (p.after past).ready a (purpose.shift past.opened) (c + past.opened) := by
  cases purpose with
  | loan =>
    calc ((p.refresh c).setPhase a (.holding c)).after past
      _ = ((p.refresh c).after past).setPhase a (.holding (c + past.opened)) := setPhase_after ..
      _ = _ := by rw [refresh_after]; rfl
  | initial cs =>
    have hready (p : Pool) (cs : List Nat) (c : Nat) : p.ready a (.initial cs) c =
        if cs.length + 1 < p.size then (p.refresh c).connect a (.initial (c :: cs))
        else (p.refresh c).initialise a (c :: cs) := rfl
    rw [Purpose.shift, hready, hready, List.length_map, after_size]
    split
    · rw [connect_after, refresh_after]
      rfl
    · rw [initialise_after, refresh_after]
      rfl

theorem openingFailed_after (purpose : Purpose) (e : Error) :
    (p.openingFailed a purpose e).after past =
      (p.after past).openingFailed a (purpose.shift past.opened) e := by
  cases purpose with
  | loan => exact setPhase_after ..
  | initial cs =>
    cases cs with
    | nil => exact setPhase_after ..
    | cons c cs =>
      simp only [openingFailed, Purpose.shift, List.map_cons, List.length_cons, List.length_map]
      rw [initialise_after, note_after]
      rfl

/-- What an acquire does with a connection that the network has opened. -/
def greet (purpose : Purpose) : Pool :=
  let p' := p.extend.note a [connectEvent .debug "connected" [p.urlField]]
  let bindDn := p.connector.bindDn
  if bindDn.isEmpty then
    (p'.note a [connectEvent .trace "keeping anonymous session" []]).ready a purpose p.opened
  else
    ((p'.note a [connectEvent .debug "binding" [⟨"bind_dn", .shown bindDn⟩]]).send
      (.bind p.opened bindDn p.connector.bindPassword)).setPhase a
        (.opening purpose (.binding p.opened))

theorem greet_after (purpose : Purpose) :
    (p.greet a purpose).after past = (p.after past).greet a (purpose.shift past.opened) := by
  simp only [greet, after_connector, opened_after]
  split
  · rw [ready_after, note_after, note_after, extend_after]
    rfl
  · rw [setPhase_after, send_after, note_after, note_after, extend_after]
    rfl

theorem connected_after (answer : Except RequestError Unit) :
    (p.connected a answer).after past = (p.after past).connected a answer := by
  unfold connected
  rw [phase?_after]
  cases p.phase? a with
  | none => rfl
  | some phase =>
    cases phase with
    | opening purpose stage =>
      cases stage with
      | connecting =>
        cases answer with
        | error cause =>
          simp only [Option.map_some, Phase.shift, Stage.shift]
          rw [openingFailed_after, note_after]
          rfl
        | ok => exact greet_after p past a purpose
      | _ => rfl
    | _ => rfl

theorem bound_after (answer : Except RequestError Result) :
    (p.bound a answer).after past = (p.after past).bound a answer := by
  unfold bound
  rw [phase?_after]
  cases p.phase? a with
  | none => rfl
  | some phase =>
    cases phase with
    | opening purpose stage =>
      cases stage with
      | binding c =>
        simp only [Option.map_some, Phase.shift, Stage.shift, note_connector, after_connector]
        split
        · rw [ready_after, note_after]
        · rw [setPhase_after, unbind_after, note_after]
          rfl
      | _ => rfl
    | _ => rfl

theorem unbound_after : (p.unbound a).after past = (p.after past).unbound a := by
  unfold unbound
  rw [phase?_after]
  cases p.phase? a with
  | none => rfl
  | some phase =>
    cases phase with
    | opening purpose stage =>
      cases stage with
      | unbinding c e => exact openingFailed_after ..
      | _ => rfl
    | _ => rfl

/-! ### Borrowing and giving back -/

theorem enter_after : (p.enter a).after past = (p.after past).enter a := by
  unfold enter
  rw [phase?_after, isInitialising_after, after_isInitialised]
  cases p.phase? a with
  | none => rfl
  | some phase =>
    cases phase with
    | started =>
      simp only [Option.map_some, Phase.shift]
      split
      · exact setPhase_after ..
      · split
        · rfl
        · rw [connect_after, note_after]
          rfl
    | _ => rfl

theorem grant_after : (p.grant a).after past = (p.after past).grant a := by
  unfold grant
  rw [phase?_after, after_permits]
  cases p.phase? a with
  | none => rfl
  | some phase =>
    cases phase with
    | queued =>
      simp only [Option.map_some, Phase.shift]
      split
      · rfl
      · exact setPhase_after ..
    | _ => rfl

theorem expire_after : (p.expire a).after past = (p.after past).expire a := by
  unfold expire
  rw [phase?_after, after_permits]
  cases p.phase? a with
  | none => rfl
  | some phase =>
    cases phase with
    | queued =>
      simp only [Option.map_some, Phase.shift]
      split
      · rw [setPhase_after, note_after]
        rfl
      · rfl
    | _ => rfl

theorem take_after : (p.take a).after past = (p.after past).take a := by
  unfold take
  rw [phase?_after, after_idle]
  cases p.phase? a with
  | none => rfl
  | some phase =>
    cases phase with
    | permitted =>
      cases p.idle with
      | nil => exact connect_after ..
      | cons c idle =>
        simp only [Option.map_some, Phase.shift, List.map_cons]
        have hp : ({ p with idle } : Pool).after past =
            { p.after past with idle := idle.map (· + past.opened) } := rfl
        rw [← hp, isAlive_after, isExpired_after]
        split
        · exact note_after ..
        · split
          · rw [unbind_after, note_after]
          · exact setPhase_after ..
    | _ => rfl

theorem search_after (query : Query) :
    (p.search a query).after past = (p.after past).search a query := by
  unfold search
  rw [phase?_after]
  cases p.phase? a with
  | none => rfl
  | some phase =>
    cases phase with
    | holding c => exact send_after ..
    | _ => rfl

theorem giveBack_after : (p.giveBack a).after past = (p.after past).giveBack a := by
  unfold giveBack
  rw [phase?_after]
  cases p.phase? a with
  | none => rfl
  | some phase =>
    cases phase with
    | holding c =>
      have hreturned : (p.after past).setPhase a .returned = (p.setPhase a .returned).after past :=
        (setPhase_after p past a .returned).symm
      simp only [Option.map_some, Phase.shift]
      rw [hreturned, isAlive_after, isExpired_after, after_keepAlive]
      split
      · exact note_after ..
      · split
        · exact unbind_after ..
        · rfl
    | _ => rfl

theorem free_after : (p.free a).after past = (p.after past).free a := by
  unfold free
  rw [phase?_after]
  cases p.phase? a with
  | none => rfl
  | some phase =>
    cases phase with
    | returned => exact setPhase_after ..
    | _ => rfl

theorem ownConnections_shift (purpose : Purpose) (stage : Stage) (n : Nat) :
    ownConnections (purpose.shift n) (stage.shift n) =
      (ownConnections purpose stage).map (· + n) := by
  cases purpose <;> cases stage <;> rfl

theorem abandon_after : (p.abandon a).after past = (p.after past).abandon a := by
  unfold abandon
  rw [phase?_after]
  cases p.phase? a with
  | none => rfl
  | some phase =>
    cases phase with
    | started | queued | permitted => exact setPhase_after ..
    | opening purpose stage =>
      simp only [Option.map_some, Phase.shift]
      rw [ownConnections_shift, setPhase_after]
      have hlose := lose_after p past (ownConnections purpose stage)
      unfold lose at hlose
      rw [← hlose]
      cases purpose <;> rfl
    | _ => rfl

/-! ### The machine -/

theorem step_after (s : Step) :
    (p.step s).after past = (p.after past).step (s.shift past.opened) := by
  cases s with
  | start spans => simp [step, Step.shift, after, Acquire.shift, Phase.shift]
  | enter a => exact enter_after ..
  | connected a answer => exact connected_after ..
  | bound a answer => exact bound_after ..
  | unbound a => exact unbound_after ..
  | grant a => exact grant_after ..
  | expire a => exact expire_after ..
  | take a => exact take_after ..
  | search a query => exact search_after ..
  | giveBack a => exact giveBack_after ..
  | free a => exact free_after ..
  | abandon a => exact abandon_after ..
  | close c => exact setFate_after ..
  | advance millis => rfl

/-- A run does not see what was before. -/
theorem run_after (ss : List Step) :
    (p.run ss).after past = (p.after past).run (ss.map (·.shift past.opened)) := by
  induction ss generalizing p with
  | nil => rfl
  | cons s ss ih => rw [run_cons, ih, step_after, List.map_cons, run_cons]

end Pool
end RoleLookup.Directory
