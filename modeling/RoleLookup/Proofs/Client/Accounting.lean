import RoleLookup.Proofs.Client.Outcomes
import RoleLookup.Proofs.Pool.Lending
import RoleLookup.Proofs.Pool.Whereabouts

/-!
# The connections of a client

Lookups and health checks leave no connection behind, as long as nobody gives up while waiting for
one. Each connection that has been opened is idle or checked out until it is discarded, and then it
was found closed or is unbound once.

* `Pool.Accounted`, what holds of every connection, with `Accounted.step`;
* `GivesUpAcquire` and `Patient`, a caller gives up an acquire, and a run in which none does;
* `Discards`, a connection in use is so no more after a step, `Place` and `IsAt`, where a connection
  is that has been opened;
* `PutsAway`, a step after which a connection may not be used any more, and `PutsAway.discards`;
* `Fires.treats`, what a step of the client does to one connection;
* `connections_are_accounted_for`, the history of all connections.
-/

namespace RoleLookup.Directory
namespace Pool

variable {p q r : Pool} {s : Step} {a c : Nat}

/-! ### What holds of a connection -/

/-- What holds of a connection as long as nobody gives up. -/
structure Accounted (p : Pool) (c : Nat) : Prop where
  /-- What is in use or to come has not been unbound. -/
  unsent : p.InUse c ∨ p.opened ≤ c → p.unbinds c = 0
  /-- Nothing is unbound twice. -/
  once : p.unbinds c ≤ 1
  /-- It is the other side that closes what is not unbound. -/
  fate : ∀ fate, p.fate? c = some fate → fate = .alive ∨ fate = .closed ∨ 0 < p.unbinds c

theorem accounted_ofSettings (settings : Settings) (connector : Connector) (c : Nat) :
    (ofSettings settings connector).Accounted c where
  unsent _ := rfl
  once := Nat.zero_le 1
  fate := by simp [ofSettings, fate?]

/-- No connection moves when a permit comes back. -/
theorem uses_free (p : Pool) (a c : Nat) : (p.step (.free a)).uses c = p.uses c := by
  generalize hq : p.step (.free a) = q
  cases hq ▸ step_fires p (.free a) with
  | idle => rfl
  | free ha => exact uses_setPhase (r := { p with permits := _ }) ha rfl rfl .released c

namespace Treats

/-- A connection that is not put away has not been, and has not been unbound either. -/
theorem unsent (h : p.Treats c q) (accounted : p.Accounted c) (balanced : p.Balanced)
    (ho : p.opened ≤ q.opened) (hc : q.InUse c ∨ q.opened ≤ c) : q.unbinds c = 0 := by
  have hold (huses : 0 < p.uses c) : c < p.opened := balanced.lt_opened_of_inUse (inUse_iff.2 huses)
  have hone := balanced.uses_le_one c
  rw [inUse_iff] at hc
  cases h with
  | same known places sent =>
    rw [places] at hc
    rw [sent]
    exact accounted.unsent (hc.imp inUse_iff.2 ho.trans)
  | opens new places sent =>
    rw [sent]
    exact accounted.unsent (.inr (Nat.le_of_eq new.symm))
  | drops _ places | closes _ places => omega

theorem once (h : p.Treats c q) (accounted : p.Accounted c) : q.unbinds c ≤ 1 := by
  cases h with
  | same _ _ sent | opens _ _ sent | drops _ _ sent => exact sent ▸ accounted.once
  | closes alive places sent =>
    rw [sent, accounted.unsent (.inl (inUse_iff.2 (by omega)))]

theorem unbinds_le (h : p.Treats c q) : p.unbinds c ≤ q.unbinds c := by
  cases h with
  | same _ _ sent | opens _ _ sent | drops _ _ sent | closes _ _ sent => omega

/-- A connection that has been put away stays so and is not unbound any more. -/
theorem idle (h : p.Treats c q) (hc : c < p.opened) (hnot : ¬ p.InUse c) :
    ¬ q.InUse c ∧ q.unbinds c = p.unbinds c := by
  simp only [inUse_iff] at *
  cases h with
  | same known places sent => exact ⟨by rwa [places], sent⟩
  | opens new => exact absurd new (Nat.ne_of_lt hc)
  | drops _ places | closes _ places => omega

/-- A connection that is opened is in use. -/
theorem inUse_of_new (h : p.Treats c q) (balanced : p.Balanced) (hp : p.opened ≤ c)
    (hq : c < q.opened) : q.InUse c := by
  have hnone := balanced.uses_le c
  rw [if_neg (Nat.not_lt.2 hp)] at hnone
  cases h with
  | same known => exact absurd (known hq) (Nat.not_lt.2 hp)
  | opens new places => exact inUse_iff.2 (by omega)
  | drops _ places | closes _ places => omega

/-- A connection is put away because it is closed, and is unbound otherwise. -/
theorem discards (h : p.Treats c q) (accounted : p.Accounted c) (hp : p.InUse c)
    (hq : ¬ q.InUse c) : (p.isAlive c = false ∧ q.unbinds c = 0) ∨
      (p.isAlive c = true ∧ q.unbinds c = 1) := by
  have hnone := accounted.unsent (.inl hp)
  rw [inUse_iff] at hp hq
  cases h with
  | same _ places | opens _ places => omega
  | drops dead places sent => exact .inl ⟨dead, sent.trans hnone⟩
  | closes alive places sent => exact .inr ⟨alive, by omega⟩

/-- What comes after a step may be left out if it neither moves, opens nor unbinds anything. -/
theorem congr (h : p.Treats c q) (ho : r.opened = q.opened) (huses : r.uses c = q.uses c)
    (hs : r.unbinds c = q.unbinds c) : p.Treats c r := by
  cases h with
  | same known places sent => exact .same (ho ▸ known) (huses.trans places) (hs.trans sent)
  | opens new places sent => exact .opens new (huses.trans places) (hs.trans sent)
  | drops dead places sent => exact .drops dead (huses ▸ places) (hs.trans sent)
  | closes alive places sent => exact .closes alive (huses ▸ places) (hs.trans sent)

theorem of_note {events : List Log.Event} (h : (p.note a events).Treats c q) : p.Treats c q := by
  cases h with
  | same known places sent => exact .same known places sent
  | opens new places sent => exact .opens new places sent
  | drops dead places sent => exact .drops dead places sent
  | closes alive places sent => exact .closes alive places sent

theorem free (h : p.Treats c q) (a : Nat) : p.Treats c (q.step (.free a)) := by
  refine h.congr ?_ (uses_free q a c) ?_ <;>
    · generalize hr : q.step (.free a) = r
      cases hr ▸ step_fires q (.free a) <;> rfl

end Treats

theorem Balanced.note (h : p.Balanced) (a : Nat) (events : List Log.Event) :
    (p.note a events).Balanced :=
  h.of_totals rfl rfl (fun _ _ => rfl) fun _ _ hb _ => hb

theorem Accounted.step (h : p.Accounted c) (balanced : p.Balanced) (hs : ∀ a, s ≠ .abandon a) :
    (p.step s).Accounted c := by
  have treats := (step_fires p s).treats balanced hs c
  refine ⟨treats.unsent h balanced (opened_step p s), treats.once h, fun fate hfate => ?_⟩
  have hle := treats.unbinds_le
  rcases (step_fires p s).fate?_cases hs hfate with hfate | hfate | hfate | hlt
  · exact (h.fate fate hfate).imp_right (·.imp_right fun h => Nat.lt_of_lt_of_le h hle)
  · exact .inl hfate
  · exact .inr (.inl hfate)
  · exact .inr (.inr (Nat.zero_lt_of_lt hlt))

/-- What has been found closed was closed from the other side. -/
theorem Accounted.closed (h : p.Accounted c) (hc : p.InUse c) (balanced : p.Balanced)
    (dead : p.isAlive c = false) : p.fate? c = some .closed := by
  have hlt := balanced.lt_opened_of_inUse hc
  obtain ⟨k, hk⟩ : ∃ k, p.connections[c]? = some k := ⟨_, List.getElem?_eq_getElem hlt⟩
  have hfate : p.fate? c = some k.fate := by rw [fate?, hk]; rfl
  rcases h.fate k.fate hfate with alive | closed | sent
  · rw [isAlive, hfate, alive] at dead
    cases dead
  · rw [hfate, closed]
  · exact absurd (h.unsent (.inl hc)) (Nat.ne_of_gt sent)

/-! ### What is put away -/

/-- A connection that is closed, too old or not to be kept cannot be given back. -/
def Unfit (p : Pool) (c : Nat) : Prop :=
  p.keepAlive = false ∨ p.isAlive c = false ∨ p.isExpired c = true

namespace Balanced

theorem not_inUse_of_rejected {purpose : Purpose} {answer : Except RequestError Result} {e : Error}
    (h : p.Balanced) (ha : p.phase? a = some (.opening purpose (.binding c)))
    (bad : bindError? p.connector.bindDn answer = some e) :
    ¬ (p.step (.bound a answer)).InUse c := by
  have hacquires := acquires_unbind (p := p.note a (bindEvents p.connector.bindDn answer)) (c := c)
  have hunbinding : (p.step (.bound a answer)).phase? a =
      some (.opening purpose (.unbinding c e)) := by
    simp [Pool.step, bound, ha, bad, phase?_setPhase, phase?_congr hacquires]
  exact (h.step _).not_inUse_of_unbinding hunbinding

theorem not_inUse_of_taken {idle : List Nat} (h : p.Balanced) (ha : p.phase? a = some .permitted)
    (top : p.idle = c :: idle) (unfit : p.isAlive c = false ∨ p.isExpired c = true) :
    ¬ (p.step (.take a)).InUse c := by
  have hunfit : ¬ (p.isAlive c = true ∧ p.isExpired c = false) := by
    rcases unfit with dead | old <;> simp [*]
  obtain ⟨hacquires, hbooks, -⟩ := take_of_unfit ha top hunfit
  have hidle : (p.take a).idle = idle := congrArg Books.idle hbooks
  have huses := uses_of_taken hacquires (hidle.symm ▸ top) c
  have hone := h.uses_le_one c
  rw [List.count_singleton_self] at huses
  rw [inUse_iff]
  change ¬ 0 < (p.take a).uses c
  omega

theorem not_inUse_of_returned (h : p.Balanced) (ha : p.held? a = some c) (unfit : p.Unfit c) :
    ¬ (p.step (.giveBack a)).InUse c := by
  have hunfit : ¬ (p.keepAlive = true ∧ p.isAlive c = true ∧ p.isExpired c = false) := by
    rcases unfit with unkept | dead | old <;> simp [*]
  have ha := held?_eq_some.1 ha
  obtain ⟨hacquires, hbooks, -⟩ := giveBack_of_unfit ha hunfit
  have hidle : (p.giveBack a).idle = p.idle := congrArg Books.idle hbooks
  have huses := uses_of_move ha hacquires c
  have hone := h.uses_le_one c
  simp only [hidle, Phase.uses, List.count_singleton_self, List.count_nil] at huses
  rw [inUse_iff]
  change ¬ 0 < (p.giveBack a).uses c
  omega

end Balanced

end Pool

namespace Client

/-! ### Runs in which nobody gives up -/

/-- In a step a caller gives up an acquire, be it that of a lookup. -/
def GivesUpAcquire (c : Client) (s : Step) : Prop :=
  (∃ a, s = .pool (.abandon a)) ∨
    ∃ l user a, s = .abandon l ∧ c.lookups[l]? = some ⟨user, a, .acquiring⟩

/-- No caller gives up an acquire in a run. -/
def Patient (c : Client) (ss : List Step) : Prop :=
  ∀ before s after, ss = before ++ s :: after → ¬ (c.run before).GivesUpAcquire s

/-- A connection in use is so no more after a step. -/
def Discards (c : Client) (s : Step) (k : Nat) : Prop :=
  c.pool.InUse k ∧ ¬ (c.step s).pool.InUse k

/-- Where a connection can be. -/
inductive Place
  | idle
  /-- An acquire has it, to bind it or to lend it. -/
  | checkedOut
  | discarded

/-- Where a connection is after a run. -/
def IsAt (c : Client) (ss : List Step) (k : Nat) : Place → Prop
  | .idle => (c.run ss).pool.IsAtRest k
  | .checkedOut => (c.run ss).pool.IsOpening k ∨ (c.run ss).pool.IsLent k
  | .discarded => ∃ before s after, ss = before ++ s :: after ∧ (c.run before).Discards s k

/-- A step after which a connection may not be used any more. -/
inductive PutsAway (c : Client) (k : Nat) : Step → Prop
  /-- Its bind is answered, but not with success, or is not answered at all. -/
  | rejected {a purpose answer e}
      (ha : c.pool.phase? a = some (.opening purpose (.binding k)))
      (bad : bindError? c.pool.connector.bindDn answer = some e) :
      PutsAway c k (.pool (.bound a answer))
  /-- An acquire that looks for one finds it closed or too old. -/
  | stale {a idle} (ha : c.pool.phase? a = some .permitted) (top : c.pool.idle = k :: idle)
      (unfit : c.pool.isAlive k = false ∨ c.pool.isExpired k = true) :
      PutsAway c k (.pool (.take a))
  /-- It is given back closed or too old, or is not to be kept. -/
  | unkept {s a} (ha : c.pool.held? a = some k) (back : (c.step s).pool.held? a ≠ some k)
      (unfit : c.pool.Unfit k) : PutsAway c k s

variable {c d : Client} {s : Step} {ss : List Step} {a k : Nat}

theorem patient_concat : c.Patient (ss ++ [s]) ↔
    c.Patient ss ∧ ¬ (c.run ss).GivesUpAcquire s := by
  constructor
  · intro h
    refine ⟨fun before t after hss => ?_, h ss s [] rfl⟩
    exact h before t (after ++ [s]) (by simp [hss])
  · rintro ⟨h, hs⟩ before t after hss
    rcases List.eq_nil_or_concat after with rfl | ⟨after, u, rfl⟩
    · obtain ⟨rfl, hst⟩ := List.append_inj' hss rfl
      cases hst
      exact hs
    · rw [List.concat_eq_append, ← List.cons_append, ← List.append_assoc] at hss
      exact h before t after (List.append_inj' hss rfl).1

theorem patient_of_forall (h : ∀ s ∈ ss, (∀ a, s ≠ .pool (.abandon a)) ∧ ∀ l, s ≠ .abandon l) :
    c.Patient ss := by
  rintro before s after rfl hs
  obtain ⟨hpool, hlookup⟩ := h s (List.mem_append_right _ List.mem_cons_self)
  rcases hs with ⟨a, hs⟩ | ⟨l, user, a, hs, -⟩
  · exact hpool a hs
  · exact hlookup l hs

theorem Patient.of_append {rest : List Step} (h : c.Patient (ss ++ rest)) : c.Patient ss :=
  fun before t after hss => h before t (after ++ rest) (by simp [hss])

/-! ### Each step treats the connections well -/

/-- What the steps and the events of a pool keep is kept by the steps of a client in which nobody
gives up an acquire, if it is kept in the steps in which none is given up. -/
theorem Fires.pool_induction_of_patient {P : Pool → Prop} (f : Fires c s d)
    (hs : ¬ c.GivesUpAcquire s) (keep : ∀ p t, (∀ a, t ≠ .abandon a) → P p → P (p.step t))
    (quiet : ∀ p a events, P p → P (p.note a events)) (hp : P c.pool) : P d.pool := by
  have release {c : Client} (a : Nat) (hp : P c.pool) : P (c.release a).pool :=
    keep _ (.free a) nofun (keep _ (.giveBack a) nofun hp)
  cases f with
  | idle | fail => exact hp
  | @pool t => exact keep _ t (fun a ht => hs (.inl ⟨a, congrArg _ ht⟩)) hp
  | lookup user => exact keep _ (.start [lookupSpan user]) nofun hp
  | check spans => exact keep _ (.start spans) nofun hp
  | @search _ _ _ _ query events => exact keep _ (.search _ query) nofun (quiet _ _ events hp)
  | refuse events => exact release (c := c.note _ events) _ (quiet _ _ _ hp)
  | answer before after =>
    exact quiet _ _ after (release (c := c.note _ before) _ (quiet _ _ _ hp))
  | leave hl => exact absurd (.inr ⟨_, _, _, rfl, hl⟩) hs
  | giveUp | connected => exact release _ hp
  | unconnected events => exact quiet _ _ events hp

theorem Fires.treats (f : Fires c s d) (balanced : c.pool.Balanced) (hs : ¬ c.GivesUpAcquire s)
    (k : Nat) : c.pool.Treats k d.pool := by
  have step {p : Pool} (hp : p.Balanced) (t : Pool.Step) (ht : ∀ a, t ≠ .abandon a) :
      p.Treats k (p.step t) := (Pool.step_fires p t).treats hp ht k
  have release {c : Client} (hc : c.pool.Balanced) (a : Nat) :
      c.pool.Treats k (c.release a).pool := (step hc (.giveBack a) nofun).free a
  cases f with
  | idle | fail => exact .same id rfl rfl
  | @pool t => exact step balanced t fun a ht => hs (.inl ⟨a, congrArg _ ht⟩)
  | lookup user => exact step balanced (.start [lookupSpan user]) nofun
  | check spans => exact step balanced (.start spans) nofun
  | @search l user a _ query events =>
    exact (step (balanced.note a events) (.search a query) nofun).of_note
  | @refuse l user a _ events =>
    exact (release (c := c.note a events) (balanced.note a events) a).of_note
  | @answer l user a _ before after =>
    have h := (release (c := c.note a before) (balanced.note a before) a).of_note
    exact h.congr rfl rfl rfl
  | leave hl => exact absurd (.inr ⟨_, _, _, rfl, hl⟩) hs
  | giveUp | connected => exact release balanced _
  | unconnected => exact .same id rfl rfl

theorem held?_release_of_other {b : Nat} (ha : c.pool.held? a = some k) (hab : a ≠ b) :
    (c.release b).pool.held? a = some k :=
  Pool.held?_eq_some.2 (phase?_release_of_other (Pool.held?_eq_some.1 ha) hab)

/-- An unfit connection that is given back is put away. -/
theorem Fires.not_inUse_of_returned (f : Fires c s d) (balanced : c.pool.Balanced)
    (hs : ¬ c.GivesUpAcquire s) (ha : c.pool.held? a = some k) (back : d.pool.held? a ≠ some k)
    (unfit : c.pool.Unfit k) : ¬ d.pool.InUse k := by
  have stay {p : Pool} (hp : p.held? a = some k) (t : Pool.Step) (ht : t ≠ .giveBack a) :
      (p.step t).held? a = some k := Pool.held?_step hp ht
  have release {c : Client} {b : Nat} (hc : c.pool.Balanced) (ha : c.pool.held? a = some k)
      (unfit : c.pool.Unfit k) (back : (c.release b).pool.held? a ≠ some k) :
      ¬ (c.release b).pool.InUse k := by
    by_cases hab : a = b
    · subst hab
      have hreturned := hc.not_inUse_of_returned ha unfit
      rwa [Pool.inUse_iff, ← Pool.uses_free _ a, ← Pool.inUse_iff] at hreturned
    · exact absurd (held?_release_of_other ha hab) back
  cases f with
  | idle | fail | unconnected => exact absurd ha back
  | @pool t =>
    by_cases ht : t = .giveBack a
    · exact ht ▸ balanced.not_inUse_of_returned ha unfit
    · exact absurd (stay ha t ht) back
  | lookup user => exact absurd (stay ha (.start [lookupSpan user]) nofun) back
  | check spans => exact absurd (stay ha (.start spans) nofun) back
  | @search _ _ b _ query events =>
    exact absurd (stay (p := c.pool.note b events) ha (.search b query) nofun) back
  | @refuse _ _ b _ events =>
    exact release (c := c.note b events) (balanced.note b events) ha unfit back
  | @answer _ _ b _ before after =>
    exact release (c := c.note b before) (balanced.note b before) ha unfit back
  | leave hl => exact absurd (.inr ⟨_, _, _, rfl, hl⟩) hs
  | giveUp | connected => exact release balanced ha unfit back

theorem PutsAway.discards (h : c.PutsAway k s) (balanced : c.pool.Balanced)
    (hs : ¬ c.GivesUpAcquire s) : c.Discards s k := by
  cases h with
  | rejected ha bad =>
    exact ⟨.inl ⟨_, _, ha⟩, balanced.not_inUse_of_rejected ha bad⟩
  | stale ha top unfit =>
    exact ⟨.inr (.inl (.inl (top ▸ List.mem_cons_self))),
      balanced.not_inUse_of_taken ha top unfit⟩
  | unkept ha back unfit =>
    exact ⟨.inr (.inr ⟨_, ha⟩),
      (step_fires c s).not_inUse_of_returned balanced hs ha back unfit⟩

theorem balanced_step (h : c.pool.Balanced) (s : Step) : (c.step s).pool.Balanced :=
  (step_fires c s).pool_induction (fun _ t _ hp => hp.step t) (fun t _ => h.step t)
    (fun _ _ _ hp => hp.note ..) h

theorem balanced_of_run (h : c.pool.Balanced) (ss : List Step) : (c.run ss).pool.Balanced :=
  run_induction (P := fun c => c.pool.Balanced) (fun _ s hc => balanced_step hc s) h ss

theorem balanced_run (settings : Settings) (connector : Connector) (ss : List Step) :
    ((ofSettings settings connector).run ss).pool.Balanced :=
  balanced_of_run (Pool.balanced_ofSettings settings connector) ss

theorem opened_step (c : Client) (s : Step) : c.pool.opened ≤ (c.step s).pool.opened :=
  (step_fires c s).pool_induction (P := fun p => c.pool.opened ≤ p.opened)
    (fun p t _ hp => hp.trans (Pool.opened_step p t)) (fun t _ => Pool.opened_step c.pool t)
    (fun _ _ _ hp => hp) (Nat.le_refl _)

/-! ### The history of a connection -/

section Run

variable {start : Client} {before after : List Step}

theorem accounted_run (balanced : ∀ ss, (start.run ss).pool.Balanced) (h : start.Patient ss)
    (hstart : start.pool.Accounted k) : (start.run ss).pool.Accounted k := by
  induction ss using List.reverseRecOn with
  | nil => exact hstart
  | append_singleton ss s ih =>
    obtain ⟨h, hs⟩ := patient_concat.1 h
    rw [run_concat]
    refine ((step_fires _ s).pool_induction_of_patient (P := fun p => p.Balanced ∧ p.Accounted k)
      hs ?_ ?_ ⟨balanced ss, ih h⟩).2
    · rintro p t ht ⟨hp, accounted⟩
      exact ⟨hp.step t, accounted.step hp ht⟩
    · rintro p a events ⟨hp, accounted⟩
      exact ⟨hp.note a events, accounted.unsent, accounted.once, accounted.fate⟩

/-- A connection that has been put away stays so and is not unbound any more. -/
theorem idle_run (balanced : ∀ ss, (start.run ss).pool.Balanced)
    (h : start.Patient (before ++ after)) (hk : k < (start.run before).pool.opened)
    (hnot : ¬ (start.run before).pool.InUse k) :
    k < (start.run (before ++ after)).pool.opened ∧
      ¬ (start.run (before ++ after)).pool.InUse k ∧
      (start.run (before ++ after)).pool.unbinds k = (start.run before).pool.unbinds k := by
  induction after using List.reverseRecOn with
  | nil => exact (List.append_nil before).symm ▸ ⟨hk, hnot, rfl⟩
  | append_singleton after s ih =>
    rw [← List.append_assoc] at h ⊢
    obtain ⟨h, hs⟩ := patient_concat.1 h
    obtain ⟨hlt, hidle, hsent⟩ := ih h
    obtain ⟨hidle', hsent'⟩ := ((step_fires _ s).treats (balanced _) hs k).idle hlt hidle
    rw [run_concat]
    exact ⟨hlt.trans_le (opened_step _ s), hidle', hsent'.trans hsent⟩

/-- What is not in use any more has been discarded. -/
theorem discarded_of_not_inUse (balanced : ∀ ss, (start.run ss).pool.Balanced)
    (h : start.Patient ss) (hstart : start.pool.opened ≤ k)
    (hk : k < (start.run ss).pool.opened) (hnot : ¬ (start.run ss).pool.InUse k) :
    start.IsAt ss k .discarded := by
  induction ss using List.reverseRecOn with
  | nil => exact absurd hk (Nat.not_lt.2 hstart)
  | append_singleton ss s ih =>
    obtain ⟨h, hs⟩ := patient_concat.1 h
    rw [run_concat] at hk hnot
    have treats := (step_fires _ s).treats (balanced ss) hs k
    by_cases hold : k < (start.run ss).pool.opened
    · by_cases hin : (start.run ss).pool.InUse k
      · exact ⟨ss, s, [], rfl, hin, hnot⟩
      · obtain ⟨before, t, after, hss, hd⟩ := ih h hold hin
        exact ⟨before, t, after ++ [s], by simp [hss], hd⟩
    · exact absurd (treats.inUse_of_new (balanced ss) (Nat.not_lt.1 hold) hk) hnot

/-- What has been discarded is not in use any more, and has been unbound if it was not closed. -/
theorem of_discards (balanced : ∀ ss, (start.run ss).pool.Balanced)
    (hstart : start.pool.Accounted k) (h : start.Patient (before ++ s :: after))
    (hd : (start.run before).Discards s k) :
    let p := (start.run before).pool
    let q := (start.run (before ++ s :: after)).pool
    ¬ q.InUse k ∧ ((p.fate? k = some .closed ∧ q.unbinds k = 0) ∨
      (p.fate? k = some .alive ∧ q.unbinds k = 1)) := by
  intro p q
  have hbefore := h.of_append
  have hs := h before s after rfl
  have accounted : p.Accounted k := accounted_run balanced hbefore hstart
  have treats := (step_fires (start.run before) s).treats (balanced before) hs k
  have hlt : k < p.opened := (balanced before).lt_opened_of_inUse hd.1
  have hsplit : before ++ s :: after = (before ++ [s]) ++ after := by simp
  rw [hsplit] at h
  obtain ⟨-, hnot, hsent⟩ := idle_run balanced h (k := k)
    (by rw [run_concat]; exact hlt.trans_le (opened_step _ s)) (by rw [run_concat]; exact hd.2)
  rw [← hsplit] at hnot hsent
  rw [run_concat] at hsent
  refine ⟨hnot, ?_⟩
  rcases treats.discards accounted hd.1 hd.2 with ⟨dead, hone⟩ | ⟨alive, hone⟩
  · exact .inl ⟨accounted.closed hd.1 (balanced before) dead, hsent.trans hone⟩
  · refine .inr ⟨?_, hsent.trans hone⟩
    simpa [Pool.isAlive] using alive

end Run

/-- **No connection is leaked or closed twice.** In every run in which nobody gives up an acquire,
each connection that has been opened is idle, checked out or discarded, and in just one of these
places. As long as it is not discarded it has not been unbound. When it is discarded it is
closed already, or it is unbound, and that once. It is discarded when its bind fails, when it is
found closed or too old, and when it is given back closed or too old or is not to be kept. -/
theorem connections_are_accounted_for (settings : Settings) (connector : Connector)
    (ss : List Step) (h : (ofSettings settings connector).Patient ss) :
    let start := ofSettings settings connector
    let p := (start.run ss).pool
    ∀ k < p.opened,
      (∃! place, start.IsAt ss k place) ∧
      (¬ start.IsAt ss k .discarded → p.unbinds k = 0) ∧
      (∀ before s after, ss = before ++ s :: after → (start.run before).Discards s k →
        let q := (start.run before).pool
        (q.fate? k = some .closed ∧ p.unbinds k = 0) ∨
          (q.fate? k = some .alive ∧ p.unbinds k = 1)) ∧
      (∀ before s after, ss = before ++ s :: after → (start.run before).PutsAway k s →
        (start.run before).Discards s k) := by
  intro start p k hk
  have balanced (ss) : (start.run ss).pool.Balanced := balanced_run settings connector ss
  have accounted : start.pool.Accounted k := Pool.accounted_ofSettings settings connector k
  have hdiscarded : start.IsAt ss k .discarded ↔ ¬ p.InUse k := by
    constructor
    · rintro ⟨before, s, after, rfl, hd⟩
      exact (of_discards balanced accounted h hd).1
    · exact discarded_of_not_inUse balanced h (Nat.zero_le k) hk
  have apart (hout : p.IsOpening k ∨ p.IsLent k) : ¬ p.IsAtRest k := by
    rcases hout with opening | lent
    · exact fun rest => (balanced ss).not_isOpening_of_isAtRest rest opening
    · exact (balanced ss).not_isAtRest_of_isLent lent
  refine ⟨?_, fun hnot => ?_, ?_, ?_⟩
  · by_cases rest : p.IsAtRest k
    · refine ⟨.idle, rest, fun place hplace => ?_⟩
      cases place with
      | idle => rfl
      | checkedOut => exact absurd rest (apart hplace)
      | discarded => exact absurd (.inr (.inl rest)) (hdiscarded.1 hplace)
    by_cases hout : p.IsOpening k ∨ p.IsLent k
    · refine ⟨.checkedOut, hout, fun place hplace => ?_⟩
      cases place with
      | idle => exact absurd hplace rest
      | checkedOut => rfl
      | discarded => exact absurd (hout.imp_right .inr) (hdiscarded.1 hplace)
    · have hnot : ¬ p.InUse k := fun h =>
        h.elim (fun h => hout (.inl h)) fun h => h.elim rest fun h => hout (.inr h)
      refine ⟨.discarded, hdiscarded.2 hnot, fun place hplace => ?_⟩
      cases place with
      | idle => exact absurd hplace rest
      | checkedOut => exact absurd hplace hout
      | discarded => rfl
  · rw [hdiscarded, not_not] at hnot
    exact (accounted_run balanced h accounted).unsent (.inl hnot)
  · rintro before s after rfl hd
    exact (of_discards balanced accounted h hd).2
  · rintro before s after rfl hp
    exact hp.discards (balanced before) (h before s after rfl)

/-- A pool of two. The bind of the second connection is refused, and the first one is found too old
by a health check after it has served another one. Both are unbound once. -/
theorem connections_are_accounted_for_two :
    let settings : Settings :=
      { host := "ldap", port := 389, searchBase := "", poolSize := 2, maxConnectionAge := 100 }
    let connector : Connector :=
      ⟨⟨"ldap", none, "", none, none⟩, false, 3000, 3000, none, "cn=reader", "secret"⟩
    let start := ofSettings settings connector
    let refusal : Step := .pool (.bound 0 (.ok ⟨49, "", ""⟩))
    let opening : List Step :=
      [.check [], .pool (.enter 0), .pool (.connected 0 (.ok ())), .pool (.bound 0 (.ok ⟨0, "", ""⟩)),
        .pool (.connected 0 (.ok ()))]
    let used := opening ++ refusal ::
      [.pool (.unbound 0), .pool (.grant 0), .pool (.take 0), .conclude 0,
        .pool (.advance 100), .check [], .pool (.enter 1), .pool (.grant 1)]
    let p := (start.run (used ++ [.pool (.take 1)])).pool
    (start.run opening).Discards refusal 1 ∧ p.unbinds 1 = 1 ∧
    (start.run used).Discards (.pool (.take 1)) 0 ∧ p.unbinds 0 = 1 := by
  intro settings connector start refusal opening used p
  have patient : start.Patient (used ++ [.pool (.take 1)]) :=
    patient_of_forall (by simp [used, opening, refusal])
  have accounted := connections_are_accounted_for settings connector _ patient
  obtain ⟨-, -, hclosed, hrefused⟩ := accounted 1 (by decide)
  obtain ⟨-, -, hclosed', hstale⟩ := accounted 0 (by decide)
  have hbinding : (start.run opening).pool.phase? 0 =
      some (.opening (.initial [0]) (.binding 1)) := by decide
  have hbad : bindError? "cn=reader" (.ok ⟨49, "", ""⟩) =
      some (.invalidCredentials "cn=reader") := by decide
  have hrefusal : (start.run opening).Discards refusal 1 :=
    hrefused opening refusal _ (List.append_assoc ..) (.rejected hbinding hbad)
  have htop : (start.run used).pool.idle = [0] := by decide
  have htake : (start.run used).Discards (.pool (.take 1)) 0 :=
    hstale used _ [] rfl (.stale (by decide) htop (by decide))
  refine ⟨hrefusal, ?_, htake, ?_⟩
  · rcases hclosed opening refusal _ (List.append_assoc ..) hrefusal with ⟨hfate, -⟩ | ⟨-, hone⟩
    · exact absurd hfate (by decide)
    · exact hone
  · rcases hclosed' used _ [] rfl htake with ⟨hfate, -⟩ | ⟨-, hone⟩
    · exact absurd hfate (by decide)
    · exact hone

end Client
end RoleLookup.Directory
