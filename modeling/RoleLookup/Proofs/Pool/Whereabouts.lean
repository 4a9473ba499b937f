import RoleLookup.Proofs.Pool.Acquires
import RoleLookup.Proofs.Pool.Connections
import RoleLookup.Proofs.Pool.Conservation

/-!
# Where a connection is

A connection that has been opened is in use until it is put away, and then it is closed.

* `IsOpening`, `IsAtRest`, `IsLent`, where a connection in use can be, and `InUse`;
* `uses`, in how many places a connection is, with `inUse_iff` and `Balanced.uses_le_one`;
* `unbinds`, how often a connection has been unbound;
* `Treats`, what a step does to one connection, and `Fires.treats`, each step does one of these
  things to each connection unless a caller gives up;
* `Fires.fate?_cases`, what becomes of a connection in such a step.
-/

namespace RoleLookup.Directory
namespace Pool

/-! ### Places -/

/-- The connection whose bind is not answered yet. -/
def Stage.pending : Stage → List Nat
  | .binding c => [c]
  | _ => []

/-- The connection of an acquire whose bind is not answered yet. -/
def Phase.pending : Phase → List Nat
  | .opening _ stage => stage.pending
  | _ => []

/-- The connections that an acquire has opened for the pool. -/
def Phase.ready : Phase → List Nat
  | .opening purpose _ => purpose.ready
  | _ => []

/-- The connection that an acquire holds. -/
def Phase.held : Phase → List Nat
  | .holding c => [c]
  | _ => []

/-- The connections that an acquire has, but for one that is on its way to be closed. -/
def Phase.uses : Phase → List Nat
  | .opening purpose stage => stage.pending ++ purpose.ready
  | .holding c => [c]
  | _ => []

variable (p : Pool) (c : Nat)

/-- A connection is being opened: its bind is not answered yet. -/
def IsOpening : Prop := ∃ a purpose, p.phase? a = some (.opening purpose (.binding c))

/-- A connection is at rest, in the pool or with the acquire that opens the pool. -/
def IsAtRest : Prop :=
  c ∈ p.idle ∨ ∃ a purpose stage, p.phase? a = some (.opening purpose stage) ∧ c ∈ purpose.ready

/-- A connection is lent. -/
def IsLent : Prop := ∃ a, p.held? a = some c

/-- A connection is being opened, at rest or lent. -/
def InUse : Prop := p.IsOpening c ∨ p.IsAtRest c ∨ p.IsLent c

/-- In how many places a connection is. -/
def uses : Nat := p.idle.count c + p.total (·.uses.count c)

/-- A request to unbind a connection. -/
def Request.isUnbindOf (c : Nat) : Request → Bool
  | .unbind b => b == c
  | _ => false

/-- How often a connection has been unbound. -/
def unbinds : Nat := p.sent.countP (·.isUnbindOf c)

variable {p c} {q r : Pool} {s : Step} {ss : List Step} {a b : Nat} {phase phase' : Phase}

theorem total_pos_iff {L : Phase → List Nat} : 0 < p.total (fun ph => (L ph).count c) ↔
    ∃ a phase, p.phase? a = some phase ∧ c ∈ L phase := by
  constructor
  · intro h
    by_contra hnone
    refine Nat.ne_of_gt h (List.sum_eq_zero_iff.2 fun n hn => ?_)
    obtain ⟨k, hk, rfl⟩ := List.mem_map.1 hn
    obtain ⟨a, ha⟩ := List.mem_iff_getElem?.1 hk
    exact List.count_eq_zero.2 fun hc => hnone ⟨a, k.phase, by simp [phase?, ha], hc⟩
  · rintro ⟨a, phase, ha, hc⟩
    have := le_total (fun ph => (L ph).count c) ha
    have := List.count_pos_iff.2 hc
    omega

theorem Phase.count_uses (phase : Phase) (c : Nat) : phase.uses.count c =
    phase.pending.count c + phase.ready.count c + phase.held.count c := by
  cases phase <;> simp [Phase.uses, Phase.pending, Phase.ready, Phase.held]

theorem total_uses : p.total (·.uses.count c) = p.total (·.pending.count c) +
    p.total (·.ready.count c) + p.total (·.held.count c) := by
  simp only [total, Phase.count_uses]
  rw [List.sum_map_add, List.sum_map_add]

theorem isOpening_iff : p.IsOpening c ↔ 0 < p.total (·.pending.count c) := by
  rw [total_pos_iff]
  constructor
  · rintro ⟨a, purpose, ha⟩
    exact ⟨a, _, ha, List.mem_cons_self⟩
  · rintro ⟨a, phase, ha, hc⟩
    rcases phase with _ | ⟨purpose, _ | b | _⟩ | _ | _ | _ | _ | _ | _ | _
    case opening.binding => exact ⟨a, purpose, List.mem_singleton.1 hc ▸ ha⟩
    all_goals cases hc

theorem isAtRest_iff : p.IsAtRest c ↔ 0 < p.idle.count c + p.total (·.ready.count c) := by
  rw [Nat.add_pos_iff_pos_or_pos, total_pos_iff, List.count_pos_iff, IsAtRest]
  refine or_congr_right ⟨?_, ?_⟩
  · rintro ⟨a, purpose, stage, ha, hc⟩
    exact ⟨a, _, ha, hc⟩
  · rintro ⟨a, phase, ha, hc⟩
    cases phase with
    | opening purpose stage => exact ⟨a, purpose, stage, ha, hc⟩
    | _ => cases hc

theorem isLent_iff : p.IsLent c ↔ 0 < p.total (·.held.count c) := by
  rw [total_pos_iff]
  constructor
  · rintro ⟨a, ha⟩
    exact ⟨a, _, held?_eq_some.1 ha, List.mem_cons_self⟩
  · rintro ⟨a, phase, ha, hc⟩
    unfold Phase.held at hc
    split at hc
    · exact ⟨a, held?_eq_some.2 (List.mem_singleton.1 hc ▸ ha)⟩
    · cases hc

theorem inUse_iff : p.InUse c ↔ 0 < p.uses c := by
  rw [InUse, isOpening_iff, isAtRest_iff, isLent_iff, uses, total_uses]
  omega

/-! ### A connection is in one place -/

theorem Phase.count_uses_le (phase : Phase) (c : Nat) :
    phase.uses.count c ≤ phase.connections.count c := by
  rcases phase with _ | ⟨purpose, _ | b | ⟨b, e⟩⟩ | _ | _ | _ | _ | _ | _ | _
  case opening.unbinding => exact List.count_le_count_cons
  all_goals exact Nat.le_refl _

theorem total_uses_le (p : Pool) (c : Nat) :
    p.total (·.uses.count c) ≤ p.total (·.connections.count c) :=
  List.sum_le_sum fun k _ => k.phase.count_uses_le c

namespace Balanced

theorem uses_le (h : p.Balanced) (c : Nat) : p.uses c ≤ if c < p.opened then 1 else 0 :=
  (Nat.add_le_add_left (total_uses_le p c) _).trans (h.apart c)

theorem uses_le_one (h : p.Balanced) (c : Nat) : p.uses c ≤ 1 :=
  (h.uses_le c).trans (by split <;> omega)

theorem lt_opened_of_inUse (h : p.Balanced) (hc : p.InUse c) : c < p.opened := by
  have huses := h.uses_le c
  rw [inUse_iff] at hc
  by_contra hnew
  rw [if_neg hnew] at huses
  omega

theorem not_isAtRest_of_isLent (h : p.Balanced) (hc : p.IsLent c) : ¬ p.IsAtRest c := by
  have huses := h.uses_le_one c
  rw [isLent_iff] at hc
  rw [uses, total_uses] at huses
  rw [isAtRest_iff]
  omega

theorem not_isOpening_of_isAtRest (h : p.Balanced) (hc : p.IsAtRest c) : ¬ p.IsOpening c := by
  have huses := h.uses_le_one c
  rw [isAtRest_iff] at hc
  rw [uses, total_uses] at huses
  rw [isOpening_iff]
  omega

/-- A connection whose bind has failed is in no place any more. -/
theorem not_inUse_of_unbinding (h : p.Balanced) {purpose : Purpose} {e : Error}
    (ha : p.phase? a = some (.opening purpose (.unbinding c e))) : ¬ p.InUse c := by
  have hone : p.idle.count c + p.total (·.connections.count c) ≤ 1 :=
    (h.apart c).trans (by split <;> omega)
  -- Without the acquire, what is in use is still among what acquires have.
  have hothers := total_uses_le (p.setPhase a .abandoned) c
  have huses := total_of_move (·.uses.count c) (q := p.setPhase a .abandoned) ha rfl
  have hhas := total_of_move (·.connections.count c) (q := p.setPhase a .abandoned) ha rfl
  have hmore : (Phase.opening purpose (.unbinding c e)).connections.count c =
      (Phase.opening purpose (.unbinding c e)).uses.count c + 1 := by
    exact List.count_cons_self
  have hnone : Phase.uses .abandoned = [] ∧ Phase.connections .abandoned = [] := ⟨rfl, rfl⟩
  simp only [hnone, List.count_nil] at huses hhas
  rw [inUse_iff, uses]
  omega

/-- Nothing is at rest while an acquire opens the pool. -/
theorem idle_of_isInitialising (h : p.Balanced) (ha : p.phase? a = some phase)
    (hphase : phase.isInitialising = true) : p.idle = [] := by
  have hroom := h.room
  rw [limit_of_fresh (h.fresh_of_isInitialising ha hphase)] at hroom
  rw [← List.length_eq_zero_iff]
  omega

end Balanced

/-! ### What a step does to a connection -/

/-- What a step does to one connection. -/
inductive Treats (p : Pool) (c : Nat) (q : Pool) : Prop
  | same (known : c < q.opened → c < p.opened) (places : q.uses c = p.uses c)
      (sent : q.unbinds c = p.unbinds c)
  | opens (new : c = p.opened) (places : q.uses c = p.uses c + 1)
      (sent : q.unbinds c = p.unbinds c)
  /-- It is found closed and put away. -/
  | drops (dead : p.isAlive c = false) (places : q.uses c + 1 = p.uses c)
      (sent : q.unbinds c = p.unbinds c)
  /-- It is unbound and put away. -/
  | closes (alive : p.isAlive c = true) (places : q.uses c + 1 = p.uses c)
      (sent : q.unbinds c = p.unbinds c + 1)

theorem unbinds_congr (h : q.sent = p.sent) : q.unbinds c = p.unbinds c := by
  rw [unbinds, unbinds, h]

theorem sent_setFate (fate : Fate) : (p.setFate b fate).sent = p.sent := by
  obtain ⟨connections, -, h⟩ := setFate_eq p b fate
  rw [h]

theorem unbinds_unbind (p : Pool) (b c : Nat) : (p.unbind b).unbinds c =
    p.unbinds c + if p.isAlive b = true ∧ b = c then 1 else 0 := by
  unfold unbind
  split
  · rename_i alive
    rw [unbinds_congr (sent_setFate _)]
    simp [unbinds, send, Request.isUnbindOf, List.countP_append, List.countP_singleton, alive]
  · rename_i dead
    simp [dead]

theorem idle_unbind (p : Pool) (b : Nat) : (p.unbind b).idle = p.idle :=
  congrArg Books.idle books_unbind

theorem uses_congr (ha : q.acquires = p.acquires) (hidle : q.idle = p.idle) (c : Nat) :
    q.uses c = p.uses c := by
  rw [uses, uses, total, total, ha, hidle]

/-- A connection is taken from those at rest. -/
theorem uses_of_taken (ha : q.acquires = p.acquires) (top : p.idle = b :: q.idle) (c : Nat) :
    q.uses c + [b].count c = p.uses c := by
  rw [uses, uses, total, total, ha, top, List.count_cons, List.count_cons, List.count_nil]
  omega

/-- An acquire goes on, and something may come to rest or go. -/
theorem uses_of_move (hp : p.phase? a = some phase)
    (ha : q.acquires = (p.setPhase a phase').acquires) (c : Nat) :
    q.uses c + p.idle.count c + phase.uses.count c =
      p.uses c + q.idle.count c + phase'.uses.count c := by
  have hmove := total_of_move (·.uses.count c) hp ha
  simp only [uses]
  omega

/-- An acquire goes on, and nothing comes to rest or goes. -/
theorem uses_setPhase (hp : p.phase? a = some phase) (hr : r.acquires = p.acquires)
    (hidle : r.idle = p.idle) (phase' : Phase) (c : Nat) :
    (r.setPhase a phase').uses c + phase.uses.count c = p.uses c + phase'.uses.count c := by
  have hacquires : (r.setPhase a phase').acquires = (p.setPhase a phase').acquires := by
    simp only [setPhase, hr]
  have hmove := uses_of_move hp hacquires c
  rw [setPhase_idle, hidle] at hmove
  omega

/-- The pool has been opened with the connections that are ready. -/
theorem uses_initialise {cs : List Nat} {stage : Stage} (balanced : p.Balanced)
    (hp : p.phase? a = some (.opening (.initial cs) stage)) (hr : r.acquires = p.acquires)
    (ready : List Nat) (c : Nat) :
    (r.initialise a ready).uses c + stage.pending.count c + cs.count c =
      p.uses c + ready.count c := by
  have hnone := balanced.idle_of_isInitialising hp rfl
  have hmove : (r.initialise a ready).uses c + p.idle.count c +
      (Phase.opening (.initial cs) stage).uses.count c =
        p.uses c + ready.count c + Phase.queued.uses.count c :=
    uses_of_move hp (by simp only [initialise, setPhase, hr]) c
  simp only [hnone, Phase.uses, Purpose.ready, List.count_append, List.count_nil] at hmove
  omega

/-- An acquire that has opened a connection has it instead of the one that it bound. -/
theorem Readies.uses {purpose : Purpose} {stage : Stage} (h : Readies r a b purpose q)
    (balanced : p.Balanced) (hp : p.phase? a = some (.opening purpose stage))
    (hr : r.acquires = p.acquires) (hidle : r.idle = p.idle) (c : Nat) :
    q.uses c + stage.pending.count c = p.uses c + [b].count c := by
  cases h with
  | lend =>
    have huses := uses_setPhase hp hr hidle (.holding b) c
    rwa [Phase.uses, Purpose.ready, List.append_nil] at huses
  | @more cs events room =>
    have huses := uses_setPhase (r := r.note a events) hp hr hidle
      (.opening (.initial (b :: cs)) .connecting) c
    simp only [Phase.uses, Purpose.ready, Stage.pending, List.count_append, List.count_nil,
      List.count_cons] at huses ⊢
    omega
  | @full cs =>
    have huses := uses_initialise balanced hp hr (b :: cs) c
    simp only [List.count_nil, List.count_cons] at huses ⊢
    omega

/-- An acquire that could not open one keeps those that it has, or brings them to rest. -/
theorem GivesUp.uses {purpose : Purpose} {stage : Stage} {e : Error} (h : GivesUp r a e purpose q)
    (balanced : p.Balanced) (hp : p.phase? a = some (.opening purpose stage))
    (hr : r.acquires = p.acquires) (hidle : r.idle = p.idle) (hstage : stage.pending = [])
    (c : Nat) : q.uses c = p.uses c := by
  cases h with
  | loan =>
    have huses := uses_setPhase (r := { r with permits := r.permits + 1 }) hp hr hidle (.failed e) c
    rwa [Phase.uses, hstage] at huses
  | first =>
    have huses := uses_setPhase hp hr hidle (.failed (initialisationError e)) c
    rwa [Phase.uses, hstage] at huses
  | @later cs events =>
    have huses := uses_initialise (r := r.note a events) balanced hp hr cs c
    rw [hstage, List.count_nil] at huses
    omega

theorem Readies.opened {purpose : Purpose} (h : Readies r a b purpose q) : q.opened = r.opened :=
  congrArg List.length h.connections.1

theorem GivesUp.opened {purpose : Purpose} {e : Error} (h : GivesUp r a e purpose q) :
    q.opened = r.opened :=
  congrArg List.length h.connections.1

theorem Readies.sent {purpose : Purpose} (h : Readies r a b purpose q) : q.sent = r.sent := by
  cases h <;> rfl

theorem GivesUp.sent {purpose : Purpose} {e : Error} (h : GivesUp r a e purpose q) :
    q.sent = r.sent := by
  cases h <;> rfl

namespace Treats

/-- An acquire goes on without putting a connection away. -/
theorem of_move (hp : p.phase? a = some phase) (ha : q.acquires = (p.setPhase a phase').acquires)
    (ho : q.opened = p.opened) (hs : q.sent = p.sent)
    (hc : p.idle.count c + phase.uses.count c = q.idle.count c + phase'.uses.count c) :
    p.Treats c q := by
  refine .same (ho ▸ id) ?_ (unbinds_congr hs)
  have := uses_of_move hp ha c
  omega

theorem of_new (ho : q.opened = p.opened + 1) (hc : q.uses c = p.uses c + [p.opened].count c)
    (hs : q.unbinds c = p.unbinds c) : p.Treats c q := by
  by_cases h : p.opened = c
  · exact .opens h.symm (by rw [hc, h, List.count_singleton_self]) hs
  · refine .same (fun hlt => by omega) ?_ hs
    rw [hc, List.count_singleton, if_neg (by simpa using h), Nat.add_zero]

/-- A connection is put away, and unbound if it was alive. -/
theorem of_unbind (ho : q.opened = p.opened) (hc : q.uses c + [b].count c = p.uses c)
    (hs : q.unbinds c = p.unbinds c + if p.isAlive b = true ∧ b = c then 1 else 0) :
    p.Treats c q := by
  by_cases h : b = c
  · subst h
    rw [List.count_singleton_self] at hc
    by_cases alive : p.isAlive b = true
    · exact .closes alive hc (by rw [hs, if_pos ⟨alive, rfl⟩])
    · exact .drops (by simpa using alive) hc (by rw [hs, if_neg fun h => alive h.1]; rfl)
  · rw [List.count_singleton, if_neg (by simpa using h)] at hc
    exact .same (ho ▸ id) hc (by rw [hs, if_neg fun e => h e.2]; rfl)

theorem of_dead (dead : p.isAlive b = false) (ho : q.opened = p.opened)
    (hc : q.uses c + [b].count c = p.uses c) (hs : q.sent = p.sent) : p.Treats c q :=
  of_unbind ho hc (by simp [unbinds_congr hs, dead])

end Treats

/-- Each step does one of the things listed to each connection, unless a caller gives up. -/
theorem Fires.treats (f : Fires p s q) (balanced : p.Balanced) (hs : ∀ a, s ≠ .abandon a)
    (c : Nat) : p.Treats c q := by
  cases f with
  | idle => exact .same id rfl rfl
  | start spans => exact .same id (by simp [Pool.uses, total, Phase.uses]) rfl
  | queue ha ready => exact .of_move ha rfl rfl rfl rfl
  | begin events ha fresh alone => exact .of_move ha rfl rfl rfl rfl
  | refused events ha hq =>
    exact .same (hq.opened ▸ id) (hq.uses balanced ha rfl rfl rfl c) (unbinds_congr hq.sent)
  | anonymous events ha nobody hq =>
    refine .of_new (hq.opened.trans ?_) (hq.uses balanced ha rfl rfl c) (unbinds_congr hq.sent)
    simp [opened, refresh, extend]
  | @bind a purpose events ha somebody =>
    have huses := uses_setPhase (r := (p.extend.note a events).send
      (.bind p.opened p.connector.bindDn p.connector.bindPassword)) ha rfl rfl
      (.opening purpose (.binding p.opened)) c
    refine .of_new (congrArg Books.opened books_extend) ?_
      (by simp [unbinds, send, Request.isUnbindOf, extend, note, setPhase])
    simp only [Phase.uses, Stage.pending, List.count_append, List.count_nil, Nat.zero_add,
      ← Nat.add_assoc, Nat.add_right_cancel_iff] at huses
    exact huses
  | accepted events ha ok hq =>
    have huses := hq.uses balanced ha rfl rfl c
    have hopened : q.opened = p.opened := hq.opened.trans (congrArg Books.opened books_refresh)
    exact .same (hopened ▸ id) (Nat.add_right_cancel huses) (unbinds_congr hq.sent)
  | @rejected a purpose b answer e events ha bad =>
    have huses := uses_setPhase (r := (p.note a events).unbind b) ha acquires_unbind
      (idle_unbind ..) (.opening purpose (.unbinding b e)) c
    refine .of_unbind (b := b) (congrArg Books.opened books_unbind) ?_
      (unbinds_unbind (p.note a events) b c)
    simp only [Phase.uses, Stage.pending, List.count_append, List.count_nil] at huses
    omega
  | giveUp ha hq =>
    exact .same (hq.opened ▸ id) (hq.uses balanced ha rfl rfl rfl c) (unbinds_congr hq.sent)
  | grant ha free => exact .of_move ha rfl rfl rfl rfl
  | expire events ha none => exact .of_move ha rfl rfl rfl rfl
  | dial events ha none => exact .of_move ha rfl rfl rfl rfl
  | @dropClosed a b idle events ha top dead =>
    exact .of_dead dead rfl
      (uses_of_taken (p := p) (q := { p with idle }.note a events) rfl top c) rfl
  | @dropExpired a b idle events ha top alive old =>
    refine .of_unbind (b := b) (congrArg Books.opened books_unbind) ?_
      (unbinds_unbind ({ p with idle }.note a events) b c)
    rw [uses_congr (acquires_unbind ..) (idle_unbind ..)]
    exact uses_of_taken (p := p) (q := { p with idle }.note a events) rfl top c
  | reuse ha top alive young =>
    refine .of_move ha rfl rfl rfl ?_
    rw [top, List.count_cons]
    simp [Phase.uses, List.count_singleton]
  | search query ha => exact .same id rfl (by simp [unbinds, send, Request.isUnbindOf])
  | forget events ha dead =>
    exact .of_dead dead rfl (uses_setPhase (r := p) ha rfl rfl .returned c) rfl
  | @retire a b ha alive unfit =>
    refine .of_unbind (b := b) (congrArg Books.opened books_unbind) ?_
      (unbinds_unbind (p.setPhase a .returned) b c)
    rw [uses_congr (acquires_unbind ..) (idle_unbind ..)]
    exact uses_setPhase (r := p) ha rfl rfl .returned c
  | keep ha alive kept young =>
    refine .of_move ha rfl rfl rfl ?_
    simp [Phase.uses, List.count_cons]
  | free ha => exact .of_move ha rfl rfl rfl rfl
  | leave ha hp => exact absurd rfl (hs _)
  | cede ha => exact absurd rfl (hs _)
  | loseInitial ha => exact absurd rfl (hs _)
  | loseLoan ha => exact absurd rfl (hs _)
  | close b =>
    have hbooks := books_setFate (p := p) (c := b) .closed
    have hopened : (p.setFate b .closed).opened = p.opened := congrArg Books.opened hbooks
    refine .same (hopened ▸ id) ?_ (unbinds_congr (sent_setFate _))
    exact uses_congr (acquires_setFate _) (congrArg Books.idle hbooks) c
  | advance millis => exact .same id rfl rfl

/-! ### Why a connection cannot be used -/

theorem fate?_congr (h : q.connections = p.connections) (c : Nat) : q.fate? c = p.fate? c := by
  rw [fate?, fate?, h]

theorem fate?_refresh (p : Pool) (b c : Nat) : (p.refresh b).fate? c = p.fate? c := by
  simp only [fate?, refresh, List.getElem?_modify]
  by_cases h : b = c <;> cases p.connections[c]? <;> simp [h]

theorem fate?_extend {fate : Fate} (h : p.extend.fate? c = some fate) :
    p.fate? c = some fate ∨ fate = .alive := by
  simp only [fate?, extend, List.getElem?_append, List.getElem?_singleton] at h
  split at h
  · exact .inl h
  · split at h
    · exact .inr (Option.some.inj h).symm
    · cases h

theorem fate?_setFate {fate new : Fate} (h : (p.setFate b new).fate? c = some fate) :
    p.fate? c = some fate ∨ (p.isAlive b = true ∧ b = c ∧ fate = new) := by
  unfold setFate at h
  split at h
  · rename_i alive
    simp only [fate?, List.getElem?_modify] at h
    by_cases hbc : b = c
    · subst hbc
      obtain ⟨k, hk, -⟩ := isAlive_eq_true.1 alive
      simp only [hk] at h
      exact .inr ⟨alive, rfl, (by simpa using h.symm)⟩
    · exact .inl (by simpa [fate?, hbc] using h)
  · exact .inl h

theorem fate?_unbind {fate : Fate} (h : (p.unbind b).fate? c = some fate) :
    p.fate? c = some fate ∨ p.unbinds c < (p.unbind b).unbinds c := by
  rw [unbinds_unbind]
  unfold unbind at h
  split at h
  · rename_i alive
    rcases fate?_setFate h with h | ⟨-, hbc, -⟩
    · exact .inl h
    · exact .inr (by rw [if_pos ⟨alive, hbc⟩]; exact Nat.lt_succ_self _)
  · exact .inl h

/-- A connection keeps its fate in a step, unless it is new, or is closed from the other side or
unbound in it, or a caller gives up. -/
theorem Fires.fate?_cases (f : Fires p s q) (hs : ∀ a, s ≠ .abandon a) {fate : Fate}
    (h : q.fate? c = some fate) : p.fate? c = some fate ∨ fate = .alive ∨ fate = .closed ∨
      p.unbinds c < q.unbinds c := by
  cases f with
  | refused events ha hq => exact .inl (fate?_congr hq.connections.1 c ▸ h)
  | anonymous events ha nobody hq =>
    rw [fate?_congr hq.connections.1, fate?_refresh] at h
    exact (fate?_extend h).imp_right .inl
  | bind => exact (fate?_extend h).imp_right .inl
  | accepted events ha ok hq =>
    rw [fate?_congr hq.connections.1, fate?_refresh] at h
    exact .inl h
  | rejected events => exact (fate?_unbind (p := p.note _ events) h).imp_right fun h => .inr (.inr h)
  | giveUp ha hq => exact .inl (fate?_congr hq.connections.1 c ▸ h)
  | @dropExpired _ _ idle events =>
    exact (fate?_unbind (p := { p with idle }.note _ events) h).imp_right fun h => .inr (.inr h)
  | retire =>
    exact (fate?_unbind (p := p.setPhase _ .returned) h).imp_right fun h => .inr (.inr h)
  | leave | cede | loseInitial | loseLoan => exact absurd rfl (hs _)
  | close => exact (fate?_setFate h).imp_right fun h => .inr (.inl h.2.2)
  | _ => exact .inl h

end Pool
end RoleLookup.Directory
