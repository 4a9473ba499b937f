import Mathlib.Data.List.Nodup
import RoleLookup.Proofs.Pool.Books

/-!
# Permits and connections of the pool

Permits are neither lost nor made, and connections never outnumber them.

* `Phase.hasPermit`, `Phase.isLent` and so on, which acquires have a permit or a connection;
* `Balanced`, the invariant, and `Balanced.step`, each step keeps it, one lemma for each part;
* `balanced_ofSettings`, a new pool is balanced;
* `permits_and_connections`, what follows for an initialised pool.
-/

namespace RoleLookup.Directory
namespace Pool

/-! ### What an acquire has -/

/-- A borrower has the connection. -/
def Phase.isHolding : Phase → Bool
  | .holding _ => true
  | _ => false

/-- A borrower has not given everything back. -/
def Phase.isLent : Phase → Bool
  | .holding _ | .returned => true
  | _ => false

/-- Whether a connection is opened to be lent. -/
def Purpose.isLoan : Purpose → Bool
  | .loan => true
  | .initial _ => false

/-- It has a permit and opens a connection. -/
def Phase.isDialling : Phase → Bool
  | .opening purpose _ => purpose.isLoan
  | _ => false

/-- It has a permit and nothing to lend yet. -/
def Phase.hasPermit : Phase → Bool
  | .permitted => true
  | ph => ph.isDialling

/-- It is over, and has given back what was lent to it. -/
def Phase.isOver : Phase → Bool
  | .released | .failed _ | .abandoned => true
  | _ => false

/-- The permits that an acquire has. -/
def Phase.permits : Phase → Nat
  | .permitted | .holding _ | .returned => 1
  | .opening purpose _ => purpose.isLoan.toNat
  | _ => 0

/-- The connections of the pool that an acquire has or is about to have. -/
def Phase.slots : Phase → Nat
  | .holding _ => 1
  | .opening purpose _ => purpose.isLoan.toNat
  | _ => 0

/-- The connections that an acquire has, or has opened so far. -/
def Phase.connections : Phase → List Nat
  | .opening purpose stage => ownConnections purpose stage
  | .holding c => [c]
  | _ => []

theorem Phase.isInitialising_opening (purpose : Purpose) (stage : Stage) :
    (Phase.opening purpose stage).isInitialising = !purpose.isLoan := by
  cases purpose <;> rfl

theorem Phase.permits_eq (ph : Phase) : ph.permits = ph.isLent.toNat + ph.hasPermit.toNat := by
  cases ph <;> simp [Phase.permits, Phase.isLent, Phase.hasPermit, Phase.isDialling]

theorem Phase.slots_eq (ph : Phase) : ph.slots = ph.isHolding.toNat + ph.isDialling.toNat := by
  cases ph <;> simp [Phase.slots, Phase.isHolding, Phase.isDialling]

theorem Phase.slots_le_permits (ph : Phase) : ph.slots ≤ ph.permits := by
  cases ph <;> simp [Phase.slots, Phase.permits]

theorem total_permits (p : Pool) :
    p.total Phase.permits = p.number Phase.isLent + p.number Phase.hasPermit := by
  simp only [number_eq_total, total, Phase.permits_eq]
  exact List.sum_map_add

theorem total_slots (p : Pool) :
    p.total Phase.slots = p.number Phase.isHolding + p.number Phase.isDialling := by
  simp only [number_eq_total, total, Phase.slots_eq]
  exact List.sum_map_add

/-! ### What a move does to the books -/

section Moves

variable {p : Pool} {phase phase' : Phase} {b : Books}

/-- Permits change hands, or the pool is opened and all of them are free. -/
theorem Moves.permits (m : Moves p phase phase' b) :
    (b.isInitialised = p.isInitialised ∧
      b.permits + phase'.permits = p.permits + phase.permits) ∨
    (phase.isInitialising = true ∧ phase.permits = 0 ∧
      b.isInitialised = true ∧ b.permits = p.size ∧ phase'.permits = 0) := by
  cases m with
  | fill | settle => right; exact ⟨rfl, rfl, rfl, rfl, rfl⟩
  | grant free =>
    left
    simp [books, Phase.permits]
    omega
  | leave hp => left; rcases hp with rfl | rfl <;> simp [books, Phase.permits]
  | _ => left; simp [books, Books.freed, Phase.permits, Purpose.isLoan]

/-- A connection changes hands, or the pool is opened with some, or one is opened because none is
at rest. -/
theorem Moves.room (m : Moves p phase phase' b)
    (filling : ∀ cs stage, phase = .opening (.initial cs) stage → cs.length < p.size) :
    (b.isInitialised = p.isInitialised ∧
      b.idle.length + phase'.slots ≤ p.idle.length + phase.slots) ∨
    (phase.isInitialising = true ∧ phase.slots = 0 ∧
      b.isInitialised = true ∧ b.idle.length ≤ p.size ∧ phase'.slots = 0) ∨
    (phase = .permitted ∧ p.idle = [] ∧ b = p.books ∧ phase'.slots = 1) := by
  cases m with
  | fill => exact .inr (.inl ⟨rfl, rfl, rfl, filling _ _ rfl, rfl⟩)
  | settle => exact .inr (.inl ⟨rfl, rfl, rfl, Nat.le_of_lt (filling _ _ rfl), rfl⟩)
  | dial none => exact .inr (.inr ⟨rfl, none, rfl, rfl⟩)
  | drop top | reuse top => left; simp [books, Phase.slots, top]
  | leave hp => left; rcases hp with rfl | rfl <;> simp [books, Phase.slots]
  | _ => left; simp [books, Books.freed, Phase.slots, Purpose.isLoan]

/-- Nobody begins to open a pool that is open or that somebody opens. -/
theorem Moves.sole (m : Moves p phase phase' b) :
    phase'.isInitialising.toNat + b.isInitialised.toNat ≤
        phase.isInitialising.toNat + p.isInitialised.toNat ∨
      p.isInitialising = false ∧ p.isInitialised = false ∧ b = p.books := by
  cases m with
  | begin fresh alone => exact .inr ⟨alone, fresh, rfl⟩
  | fill | settle => left; simp [Phase.isInitialising]
  | leave hp => left; rcases hp with rfl | rfl <;> simp [books, Phase.isInitialising]
  | bind | reject => left; simp [books, Phase.isInitialising_opening]
  | _ => left; simp [books, Books.freed, Phase.isInitialising]

/-- Who opens the pool does not open more connections than it has room for. -/
theorem Moves.filling {cs : List Nat} {stage : Stage}
    (m : Moves p phase (.opening (.initial cs) stage) b) (positive : 0 < p.size)
    (filling : ∀ cs stage, phase = .opening (.initial cs) stage → cs.length < p.size) :
    cs.length < p.size := by
  cases m with
  | begin => exact positive
  | bind | reject => exact filling _ _ rfl
  | more _ room => exact room

theorem Moves.opened_le (m : Moves p phase phase' b) : p.opened ≤ b.opened := by
  cases m with
  | lend h | more h | fill h => cases h <;> simp
  | _ => simp [Books.freed]

/-- What is ready is among what an acquire has opened. -/
theorem count_ready_le (purpose : Purpose) (stage : Stage) (c : Nat) :
    purpose.ready.count c ≤ (ownConnections purpose stage).count c := by
  cases stage with
  | connecting => exact Nat.le_refl _
  | binding d | unbinding d => exact List.count_le_count_cons

/-- A connection changes hands, or is lost, or is a new one. -/
theorem Moves.apart (m : Moves p phase phase' b) (c : Nat) :
    b.idle.count c + phase'.connections.count c ≤ p.idle.count c + phase.connections.count c +
      if c = p.opened ∧ p.opened < b.opened then 1 else 0 := by
  cases m with
  | lend h | more h | fill h =>
    cases h with
    | connecting | binding =>
      simp only [books, Phase.connections, ownConnections, Purpose.ready, List.count_cons,
        List.count_nil]
      grind
  | settle =>
    refine Nat.le_add_right_of_le (Nat.le_add_left_of_le ?_)
    exact count_ready_le (.initial _) _ c
  | bind | reject | keep =>
    simp only [books, Phase.connections, ownConnections, List.count_cons, List.count_nil]
    grind
  | drop top | reuse top =>
    simp only [books, Phase.connections, top, List.count_cons, List.count_nil]
    grind
  | leave hp => rcases hp with rfl | rfl <;> simp [books, Phase.connections]
  | _ => simp [books, Books.freed, Phase.connections, ownConnections, Purpose.ready]

end Moves

/-! ### The invariant -/

variable {p q : Pool} {s : Step} {ss : List Step} {a b c : Nat} {phase phase' : Phase}

/-- The permits and the connections that there are at most in some state. -/
def limit (p : Pool) : Nat := if p.isInitialised then p.size else 0

theorem limit_of_initialised (h : p.isInitialised = true) : p.limit = p.size := by
  rw [limit, if_pos h]

theorem limit_of_fresh (h : p.isInitialised = false) : p.limit = 0 := by
  simp [limit, h]

theorem limit_congr (hs : q.size = p.size) (hi : q.isInitialised = p.isInitialised) :
    q.limit = p.limit := by
  rw [limit, limit, hs, hi]

/-- The books of a pool balance. -/
structure Balanced (p : Pool) : Prop where
  positive : 0 < p.size
  /-- A permit is free, or an acquire has it. -/
  permits : p.permits + p.total Phase.permits = p.limit
  /-- There is room for every connection. -/
  room : p.idle.length + p.total Phase.slots ≤ p.limit
  /-- The pool is opened once. -/
  sole : p.number Phase.isInitialising + p.isInitialised.toNat ≤ 1
  /-- Who opens the pool does not open too many connections. -/
  filling : ∀ {a : Nat} {cs : List Nat} {stage : Stage},
    p.phase? a = some (.opening (.initial cs) stage) → cs.length < p.size
  /-- A connection that has been opened is in one place at most. -/
  apart : ∀ c, p.idle.count c + p.total (·.connections.count c) ≤ if c < p.opened then 1 else 0

theorem balanced_ofSettings (s : Settings) (connector : Connector) :
    (ofSettings s connector).Balanced := by
  constructor <;> simp [ofSettings, limit, number, total, phase?]

/-! ### Each step keeps the balance -/

theorem number_pos {P : Phase → Bool} (hp : p.phase? a = some phase) (h : P phase = true) :
    0 < p.number P := by
  have := le_total (fun ph => (P ph).toNat) hp
  rw [number_eq_total]
  simp only [h, Bool.toNat_true] at this
  omega

theorem number_isInitialising_of_alone (h : p.isInitialising = false) :
    p.number Phase.isInitialising = 0 := by
  rw [number, List.countP_eq_zero]
  simpa [isInitialising] using h

/-- Someone who has a permit and no connection leaves a permit without one. -/
theorem total_slots_lt (hp : p.phase? a = some .permitted) :
    p.total Phase.slots < p.total Phase.permits := by
  obtain ⟨k, hk, hphase⟩ := Option.map_eq_some_iff.1 hp
  apply List.sum_lt_sum
  · intro l _
    exact l.phase.slots_le_permits
  · exact ⟨k, List.mem_of_getElem? hk, by rw [hphase]; decide⟩

namespace Balanced

theorem fresh_of_isInitialising (h : p.Balanced) (hp : p.phase? a = some phase)
    (hphase : phase.isInitialising = true) : p.isInitialised = false := by
  have hpos := number_pos hp hphase
  have hsole := h.sole
  cases hi : p.isInitialised with
  | false => rfl
  | true =>
    simp only [hi, Bool.toNat_true] at hsole
    omega

section Move

variable (h : p.Balanced) (hp : p.phase? a = some phase) (m : Moves p phase phase' q.books)
  (ha : q.acquires = (p.setPhase a phase').acquires)

include h hp m ha

theorem permits_of_move (hs : q.size = p.size) : q.permits + q.total Phase.permits = q.limit := by
  have hmove := total_of_move Phase.permits hp ha
  have hpermits := h.permits
  rcases m.permits with ⟨hinit, heq⟩ | ⟨hphase, hnone, hinit, hall, hnone'⟩
  · simp only [books_permits] at heq
    rw [limit_congr hs hinit]
    omega
  · simp only [limit_of_fresh (h.fresh_of_isInitialising hp hphase)] at hpermits
    simp only [books_permits] at hall
    rw [limit_of_initialised hinit]
    omega

theorem room_of_move (hs : q.size = p.size) : q.idle.length + q.total Phase.slots ≤ q.limit := by
  have hmove := total_of_move Phase.slots hp ha
  have hroom := h.room
  have hpermits := h.permits
  rcases m.room (fun cs stage e => h.filling (e ▸ hp)) with
    ⟨hinit, heq⟩ | ⟨hphase, hnone, hinit, hall, hnone'⟩ | ⟨rfl, hempty, hbooks, hone⟩
  · simp only [books_idle] at heq
    rw [limit_congr hs hinit]
    omega
  · simp only [limit_of_fresh (h.fresh_of_isInitialising hp hphase)] at hroom
    simp only [books_idle] at hall
    rw [limit_of_initialised hinit]
    omega
  -- The permit of the acquire has had no connection so far.
  · have hidle : q.idle = p.idle := congrArg Books.idle hbooks
    have hspare := total_slots_lt hp
    rw [limit_congr hs (congrArg Books.isInitialised hbooks), hidle, hempty]
    rw [hone, show Phase.slots .permitted = 0 from rfl] at hmove
    simp only [List.length_nil]
    omega

theorem sole_of_move : q.number Phase.isInitialising + q.isInitialised.toNat ≤ 1 := by
  have hmove := number_of_move Phase.isInitialising hp ha
  have hsole := h.sole
  rcases m.sole with hle | ⟨alone, fresh, hbooks⟩
  · simp only [books_isInitialised] at hle
    omega
  · have hinit : q.isInitialised = p.isInitialised := congrArg Books.isInitialised hbooks
    have := number_isInitialising_of_alone alone
    have := Bool.toNat_le phase'.isInitialising
    simp only [hinit, fresh, Bool.toNat_false]
    omega

theorem filling_of_move (hs : q.size = p.size) {b : Nat} {cs : List Nat} {stage : Stage}
    (hb : q.phase? b = some (.opening (.initial cs) stage)) : cs.length < q.size := by
  rw [show q.phase? b = (p.setPhase a phase').phase? b by simp only [phase?, ha],
    phase?_setPhase] at hb
  obtain ⟨ph, hph, heq⟩ := Option.map_eq_some_iff.1 hb
  rw [hs]
  by_cases hab : a = b
  · rw [if_pos hab] at heq
    subst heq
    exact m.filling h.positive fun cs stage e => h.filling (e ▸ hp)
  · rw [if_neg hab] at heq
    subst heq
    exact h.filling hph

theorem apart_of_move (c : Nat) :
    q.idle.count c + q.total (·.connections.count c) ≤ if c < q.opened then 1 else 0 := by
  have hmove := total_of_move (·.connections.count c) hp ha
  have hapart := h.apart c
  have hle := m.apart c
  have hgrows : p.opened ≤ q.opened := m.opened_le
  simp only [books_idle, books_opened] at hle
  grind

end Move

/-- The balance is about the books and about what acquires have. -/
theorem of_totals (h : p.Balanced) (hb : q.books = p.books) (hs : q.size = p.size)
    (htotal : ∀ w : Phase → Nat, w .started = 0 → q.total w = p.total w)
    (hphase : ∀ b phase, q.phase? b = some phase → phase ≠ .started → p.phase? b = some phase) :
    q.Balanced := by
  have hinit : q.isInitialised = p.isInitialised := congrArg Books.isInitialised hb
  have hidle : q.idle = p.idle := congrArg Books.idle hb
  have hpermits : q.permits = p.permits := congrArg Books.permits hb
  have hopened : q.opened = p.opened := congrArg Books.opened hb
  constructor
  · rw [hs]
    exact h.positive
  · rw [hpermits, htotal _ rfl, limit_congr hs hinit]
    exact h.permits
  · rw [hidle, htotal _ rfl, limit_congr hs hinit]
    exact h.room
  · rw [number_eq_total, htotal _ rfl, ← number_eq_total, hinit]
    exact h.sole
  · intro b cs stage hopening
    rw [hs]
    exact h.filling (hphase b _ hopening nofun)
  · intro c
    rw [hidle, htotal _ rfl, hopened]
    exact h.apart c

/-- A new acquire has nothing. -/
theorem of_start (h : p.Balanced) {spans : List Log.Span}
    (ha : q.acquires = p.acquires ++ [({ spans } : Acquire)]) (hb : q.books = p.books)
    (hs : q.size = p.size) : q.Balanced := by
  apply h.of_totals hb hs
  · intro w hw
    simp [total, ha, hw]
  · intro b phase hphase hne
    simp only [phase?, ha, List.getElem?_append] at hphase ⊢
    split at hphase
    · exact hphase
    · obtain ⟨k, hk, rfl⟩ := Option.map_eq_some_iff.1 hphase
      rw [List.mem_singleton.1 (List.mem_of_getElem? hk)] at hne
      exact absurd rfl hne

theorem step (h : p.Balanced) (s : Step) : (p.step s).Balanced := by
  have hs : (p.step s).size = p.size := size_step p s
  cases (step_fires p s).counts with
  | same ha hb =>
    apply h.of_totals hb hs
    · intro w _
      rw [total, total, ha]
    · intro b phase hphase _
      rwa [phase?, ha] at hphase
  | start spans ha hb => exact h.of_start ha hb hs
  | move hp m ha hb =>
    subst hb
    exact {
      positive := hs ▸ h.positive
      permits := h.permits_of_move hp m ha hs
      room := h.room_of_move hp m ha hs
      sole := h.sole_of_move hp m ha
      filling := h.filling_of_move hp m ha hs
      apart := h.apart_of_move hp m ha }

theorem run (h : p.Balanced) (ss : List Step) : (p.run ss).Balanced :=
  run_induction (fun _ s _ hp => hp.step s) h

end Balanced

/-! ### What the balance says -/

/-- A connection that is held is not at rest, and held once. -/
theorem Balanced.held_apart (h : p.Balanced) (ha : p.held? a = some c) :
    c ∉ p.idle ∧ ∀ b, p.held? b = some c → b = a := by
  have hone : p.idle.count c + p.total (·.connections.count c) ≤ 1 :=
    (h.apart c).trans (by split <;> omega)
  have hcount : (Phase.holding c).connections.count c = 1 := by simp [Phase.connections]
  rw [held?_eq_some] at ha
  refine ⟨?_, ?_⟩
  · have hle := le_total (·.connections.count c) ha
    rw [← List.count_eq_zero]
    omega
  · intro b hb
    rw [held?_eq_some] at hb
    by_contra hne
    have hle := add_le_total (w := (·.connections.count c)) rfl hne hb ha
    omega

theorem Balanced.nodup_idle (h : p.Balanced) : p.idle.Nodup := by
  rw [List.nodup_iff_count_le_one]
  intro c
  have := h.apart c
  split at this <;> omega

/-- What is at rest is with no acquire. -/
theorem Balanced.notMem_of_idle (h : p.Balanced) (hc : c ∈ p.idle)
    (ha : p.phase? a = some phase) : c ∉ phase.connections := by
  have hone : p.idle.count c + p.total (·.connections.count c) ≤ 1 :=
    (h.apart c).trans (by split <;> omega)
  have hidle := List.count_pos_iff.2 hc
  have hle := le_total (·.connections.count c) ha
  rw [← List.count_eq_zero]
  omega

/-- What is held is with no other acquire. -/
theorem Balanced.notMem_of_held (h : p.Balanced) (ha : p.held? a = some c) (hab : a ≠ b)
    (hb : p.phase? b = some phase) : c ∉ phase.connections := by
  have hone : p.idle.count c + p.total (·.connections.count c) ≤ 1 :=
    (h.apart c).trans (by split <;> omega)
  have hle := add_le_total (w := (·.connections.count c)) rfl hab (held?_eq_some.1 ha) hb
  have hcount : (Phase.holding c).connections.count c = 1 := by simp [Phase.connections]
  rw [← List.count_eq_zero]
  omega

/-- What is somewhere has been opened. -/
theorem Balanced.lt_opened (h : p.Balanced)
    (hc : 0 < p.idle.count c + p.total (·.connections.count c)) : c < p.opened := by
  have hapart := h.apart c
  by_contra hnew
  rw [if_neg hnew] at hapart
  omega

theorem Balanced.lt_opened_of_mem (h : p.Balanced) (ha : p.phase? a = some phase)
    (hc : c ∈ phase.connections) : c < p.opened := by
  have hcount := List.count_pos_iff.2 hc
  have hle := le_total (·.connections.count c) ha
  exact h.lt_opened (by omega)

theorem total_permits_of_over (h : ∀ k ∈ p.acquires, k.phase.isOver = true) :
    p.total Phase.permits = 0 := by
  rw [total, List.sum_eq_zero_iff]
  intro n hn
  obtain ⟨k, hk, rfl⟩ := List.mem_map.1 hn
  have hover := h k hk
  cases hphase : k.phase <;> simp [hphase, Phase.isOver, Phase.permits] at hover ⊢

/-- **Permits are conserved and bound the connections.** In every run of a pool that has been
opened, each permit is free, or with a borrower, or with an acquire on its way to a connection;
there is no connection too many, at rest, with a borrower or being opened; a connection at rest is
there once and with no borrower, and one that is lent has one borrower. When nobody holds or waits
for anything, all permits are free. -/
theorem permits_and_connections (s : Settings) (connector : Connector) (steps : List Step)
    (ready : ((ofSettings s connector).run steps).isInitialised = true) :
    let p := (ofSettings s connector).run steps
    let size := max s.poolSize 1
    p.number Phase.isLent + p.number Phase.hasPermit + p.permits = size ∧
    p.idle.length + p.number Phase.isHolding + p.number Phase.isDialling ≤ size ∧
    p.idle.Nodup ∧
    (∀ a c, p.held? a = some c → c ∉ p.idle ∧ ∀ b, p.held? b = some c → b = a) ∧
    ((∀ k ∈ p.acquires, k.phase.isOver = true) → p.permits = size) := by
  intro p size
  have balanced : p.Balanced := (balanced_ofSettings s connector).run steps
  have hlimit : p.limit = size := (limit_of_initialised ready).trans (size_run ..)
  have hpermits := balanced.permits
  have hroom := balanced.room
  rw [hlimit] at hpermits hroom
  refine ⟨?_, ?_, balanced.nodup_idle, fun a c ha => balanced.held_apart ha, ?_⟩
  · rw [total_permits] at hpermits
    omega
  · rw [total_slots] at hroom
    omega
  · intro hover
    rw [total_permits_of_over hover] at hpermits
    exact hpermits

/-- A pool of two. One connection is lent, the other one is closed, and the acquire that opens
another in its place fails before the borrower gives back. -/
theorem permits_and_connections_replacement :
    let settings : Settings := { host := "ldap", port := 389, searchBase := "", poolSize := 2 }
    let connector : Connector :=
      ⟨⟨"ldap", none, "", none, none⟩, false, 3000, 3000, none, "", ""⟩
    let busy : List Step := [.start [], .enter 0, .connected 0 (.ok ()), .connected 0 (.ok ()),
      .grant 0, .take 0, .start [], .enter 1, .grant 1, .close 0, .take 1, .take 1]
    let p := (ofSettings settings connector).run busy
    let q := p.run [.connected 1 (.error .timeout), .giveBack 0, .free 0]
    (p.isInitialised = true ∧ p.held? 0 = some 1 ∧ p.number Phase.isLent = 1 ∧
      p.number Phase.hasPermit = 1 ∧ p.permits = 0 ∧ 1 ∉ p.idle) ∧
    q.isInitialised = true ∧ q.idle = [1] ∧ q.permits = 2 := by
  intro settings connector busy p q
  have hp : p.isInitialised = true := by decide
  have hheld : p.held? 0 = some 1 := by decide
  have hlent : p.number Phase.isLent = 1 := by decide
  have hpermit : p.number Phase.hasPermit = 1 := by decide
  obtain ⟨hpermits, -, -, hapart, -⟩ := permits_and_connections settings connector busy hp
  have hq : q.isInitialised = true := by decide
  have hover : ∀ k ∈ q.acquires, k.phase.isOver = true := by decide
  have hall : q.permits = 2 := by
    have hrun : q = (ofSettings settings connector).run
        (busy ++ [.connected 1 (.error .timeout), .giveBack 0, .free 0]) := (run_append ..).symm
    rw [hrun] at hq hover ⊢
    exact (permits_and_connections settings connector _ hq).2.2.2.2 hover
  refine ⟨⟨hp, hheld, hlent, hpermit, ?_, (hapart 0 1 hheld).1⟩, hq, by decide, hall⟩
  change p.number _ + p.number _ + p.permits = 2 at hpermits
  omega

end Pool
end RoleLookup.Directory
