import Mathlib.Logic.Function.Basic
import RoleLookup.Proofs.Provider.Step

/-!
# One operation after another

When every operation ends before the next one begins, the two regions, the calls and the lookups
of a provider without coalescing come down to one record per user.

* `Operation`, `perform`, `performAll`, what is done to a provider when nobody else acts;
* `lookup_eq_of_hit`, `lookup_eq_of_miss`, what one whole lookup makes of a provider;
* `Ledger`, the last roles of each user with the time at which they were written, and its own
  `perform` and `performAll`;
* `Roomy`, a run whose writes drop no entry;
* `performAll_eq_ledger`, both give the same results and make the same directory calls.
-/

namespace RoleLookup

/-- Something done while nobody else acts. -/
inductive Operation
  | lookup (user : String)
  | invalidate (user : String)
  | invalidateAll
  | advance (millis : Nat)
  deriving Repr

variable {δ : Type}

/-! ### Operations on a provider -/

namespace Provider

/-- One operation. Lookups have an outcome. -/
def perform (directory : Directory δ) (p : Provider) (d : δ) :
    Operation → Provider × δ × Option Outcome
  | .lookup user => p.lookup directory user d
  | .invalidate user => (p.step (.invalidate user), d, none)
  | .invalidateAll => (p.step .invalidateAll, d, none)
  | .advance millis => (p.step (.advance millis), d, none)

/-- Operations in a row, with the outcome of each. -/
def performAll (directory : Directory δ) (p : Provider) (d : δ) :
    List Operation → Provider × δ × List (Option Outcome)
  | [] => (p, d, [])
  | op :: ops =>
    let (p, d, outcome) := p.perform directory d op
    let (p, d, outcomes) := performAll directory p d ops
    (p, d, outcome :: outcomes)

theorem performAll_cons (directory : Directory δ) (p : Provider) (d : δ) (op : Operation)
    (ops : List Operation) : p.performAll directory d (op :: ops) =
      let first := p.perform directory d op
      let rest := first.1.performAll directory first.2.1 ops
      (rest.1, rest.2.1, first.2.2 :: rest.2.2) := rfl

/-- A lookup that gets roles from the directory can write them without dropping an entry. -/
def Fits (directory : Directory δ) (p : Provider) (d : δ) : Operation → Prop
  | .lookup user => p.cache.get? p.now user = none →
      ∀ roles, (directory user d).2.outcome = .roles roles → p.cache.HasRoomFor user
  | _ => True

/-- No write of a run drops an entry. -/
def Roomy (directory : Directory δ) (p : Provider) (d : δ) : List Operation → Prop
  | [] => True
  | op :: ops => p.Fits directory d op ∧
      Roomy directory (p.perform directory d op).1 (p.perform directory d op).2.1 ops

end Provider

/-! ### One lookup -/

namespace Provider

/-- What the next operation sees of a provider, and the users that the directory was asked for. -/
structure View where
  coalescing : Bool
  cache : Cache
  now : Nat
  asked : List String

/-- The view of a provider. -/
def view (p : Provider) : View := ⟨p.coalescing, p.cache, p.now, p.calls.map (·.user)⟩

/-- What a lookup makes of the answer of the directory. -/
def View.answer (w : View) (user : String) : Outcome → View × Outcome
  | .roles roles => ({ w with cache := w.cache.put w.now user roles }, .roles roles)
  | .failed e => (w, ((w.cache.getFromFallback? w.now user).map .roles).getD (.failed e))
  | .crashed message => (w, .crashed message)

variable {p : Provider} {d : δ} {c : Nat} {u : String}

@[simp] theorem view_setCall (state : CallState) : (p.setCall c state).view = p.view := by
  have hu : (p.setCall c state).calls.map (·.user) = p.calls.map (·.user) := by
    apply List.ext_getElem?
    intro k
    simp only [List.getElem?_map, getElem?_setCall, Option.map_map]
    congr 1
    funext x
    by_cases h : c = k <;> simp [h]
  simp only [view, hu]
  rfl

theorem setPhase_newest {ls : List Lookup} {phase : Phase} (hp : p.lookups = ls ++ [⟨u, phase⟩])
    (phase' : Phase) :
    p.setPhase ls.length phase' = { p with lookups := ls ++ [⟨u, phase'⟩] } := by
  simp [setPhase, hp, List.modify_eq_take_drop]

theorem setCall_newest {cs : List Call} {state : CallState} (hp : p.calls = cs ++ [⟨u, state⟩])
    (state' : CallState) :
    p.setCall cs.length state' = { p with calls := cs ++ [⟨u, state'⟩] } := by
  simp [setCall, hp, List.modify_eq_take_drop]

/-- A lookup that hits is over at once. -/
theorem launch_eq_of_hit {roles : RoleSet} (hc : p.cache.get? p.now u = some roles) :
    p.launch u = { p.note u [event .debug "cache hit" []] with
      lookups := p.lookups ++ [⟨u, .finished (.roles roles)⟩] } := by
  have hl : (p.step (.start u)).lookups[p.lookups.length]? = some ⟨u, .started⟩ := by
    simp [step]
  change ((p.step (.start u)).check p.lookups.length).ask p.lookups.length = _
  rw [check_of_hit hl hc, setPhase_newest (p := (p.step (.start u)).note u _) rfl,
    ask_eq_self (by simp)]
  rfl

/-- A lookup that misses makes a call when there is none to join. -/
theorem launch_eq_of_miss (unshared : p.joined? u = none) (hc : p.cache.get? p.now u = none) :
    p.launch u = { p.note u [event .debug "cache miss" []] with
      lookups := p.lookups ++ [⟨u, .waiting p.calls.length⟩]
      calls := p.calls ++ [⟨u, .running⟩]
      inFlight := if p.coalescing then (u, p.calls.length) :: p.inFlight else p.inFlight } := by
  have hl : (p.step (.start u)).lookups[p.lookups.length]? = some ⟨u, .started⟩ := by
    simp [step]
  change ((p.step (.start u)).check p.lookups.length).ask p.lookups.length = _
  rw [check_of_miss hl hc, setPhase_newest (p := (p.step (.start u)).note u _) rfl]
  let q : Provider := { p.note u [event .debug "cache miss" []] with
    lookups := p.lookups ++ [⟨u, .missed⟩] }
  have hmissed : q.lookups[p.lookups.length]? = some ⟨u, .missed⟩ := by simp [q]
  have hj : q.joined? u = none := unshared
  change q.ask p.lookups.length = _
  rw [ask_of_not_joined hmissed hj, setPhase_newest rfl]
  rfl

theorem launch_of_hit {roles : RoleSet} (hc : p.cache.get? p.now u = some roles) :
    (p.launch u).view = p.view ∧ (p.launch u).awaited? p.lookups.length = none ∧
      (p.launch u).outcome? p.lookups.length = some (.roles roles) := by
  rw [launch_eq_of_hit hc]
  exact ⟨rfl, by simp [awaited?], by simp [outcome?]⟩

theorem launch_of_miss (unshared : p.joined? u = none) (hc : p.cache.get? p.now u = none) :
    (p.launch u).view = { p.view with asked := p.view.asked ++ [u] } ∧
      (p.launch u).lookups[p.lookups.length]? = some ⟨u, .waiting p.calls.length⟩ ∧
      (p.launch u).calls[p.calls.length]? = some ⟨u, .running⟩ := by
  rw [launch_eq_of_miss unshared hc]
  exact ⟨by simp [view], by simp, by simp⟩

/-- The newest call ends, and if it is shared it is in flight no longer. -/
theorem finish_newest {cs : List Call} {o : Outcome} (hp : p.calls = cs ++ [⟨u, .running⟩])
    (calm : p.coalescing = true → o.isCrash = false) :
    p.step (.finish cs.length o) = { p with
      calls := cs ++ [⟨u, .ended o⟩]
      inFlight := if p.coalescing then p.inFlight.filter (·.1 != u) else p.inFlight } := by
  have hc : p.calls[cs.length]? = some ⟨u, .running⟩ := by simp [hp]
  cases hs : p.coalescing with
  | false =>
    rw [step, finish_of_alone hc hs, setCall_newest hp]
    simp [hs]
  | true =>
    rw [step, finish_of_shared hc hs (calm hs), setCall_newest hp]
    simp [hs]

/-- The newest lookup is over in one step once its call has ended. -/
theorem resume_newest {ls : List Lookup} {o : Outcome} (hp : p.lookups = ls ++ [⟨u, .waiting c⟩])
    (hc : p.callState? c = some (.ended o)) :
    ∃ log, p.step (.resume ls.length) = { p with
      log
      cache := (p.view.answer u o).1.cache
      lookups := ls ++ [⟨u, .finished (p.view.answer u o).2⟩] } := by
  have hl : p.lookups[ls.length]? = some ⟨u, .waiting c⟩ := by simp [hp]
  cases o with
  | roles roles =>
    rw [resume_of_roles hl hc]
    exact ⟨_, setPhase_newest (p := { p.note u _ with cache := _ }) hp _⟩
  | failed e =>
    obtain ⟨events, h⟩ := resume_of_failed hl hc
    rw [h]
    exact ⟨_, setPhase_newest (p := p.note u events) hp _⟩
  | crashed message =>
    rw [resume_of_crashed hl hc]
    exact ⟨_, setPhase_newest hp _⟩

/-- The newest call ends with the reply of the directory. -/
theorem complete_newest (directory : Directory δ) {cs : List Call}
    (hp : p.calls = cs ++ [⟨u, .running⟩])
    (calm : p.coalescing = true → (directory u d).2.outcome.isCrash = false) :
    ∃ log, p.complete directory cs.length d = ({ p with
      log
      now := p.now + (directory u d).2.elapsed
      calls := cs ++ [⟨u, .ended (directory u d).2.outcome⟩]
      inFlight := if p.coalescing then p.inFlight.filter (·.1 != u) else p.inFlight },
        (directory u d).1) := by
  have hc : p.calls[cs.length]? = some ⟨u, .running⟩ := by simp [hp]
  simp only [complete, hc, run_cons, run_nil]
  exact ⟨_, congrArg (·, _) (finish_newest (p := { p with log := _ }.step (.advance _)) hp calm)⟩

/-- A lookup that hits leaves only a trace of itself. -/
theorem lookup_eq_of_hit (directory : Directory δ) {roles : RoleSet}
    (hc : p.cache.get? p.now u = some roles) :
    ∃ log, p.lookup directory u d =
      ({ p with log, lookups := p.lookups ++ [⟨u, .finished (.roles roles)⟩] },
        d, some (.roles roles)) := by
  obtain ⟨-, hwait, hout⟩ := launch_of_hit hc
  simp only [lookup, hwait, hout]
  exact ⟨_, by rw [launch_eq_of_hit hc]; rfl⟩

/-- The call that a lookup makes ends with the reply of the directory. -/
theorem complete_launch (directory : Directory δ) (unshared : p.joined? u = none)
    (hc : p.cache.get? p.now u = none)
    (calm : p.coalescing = true → (directory u d).2.outcome.isCrash = false) :
    ∃ log, (p.launch u).complete directory p.calls.length d = ({ p with
      log
      now := p.now + (directory u d).2.elapsed
      inFlight := if p.coalescing then p.inFlight.filter (·.1 != u) else p.inFlight
      calls := p.calls ++ [⟨u, .ended (directory u d).2.outcome⟩]
      lookups := p.lookups ++ [⟨u, .waiting p.calls.length⟩] }, (directory u d).1) := by
  rw [launch_eq_of_miss unshared hc]
  obtain ⟨log, h⟩ := complete_newest directory (p := { p.note u _ with
      lookups := p.lookups ++ [⟨u, .waiting p.calls.length⟩]
      calls := p.calls ++ [⟨u, .running⟩]
      inFlight := if p.coalescing then (u, p.calls.length) :: p.inFlight else p.inFlight })
    (u := u) (d := d) rfl calm
  refine ⟨log, h.trans ?_⟩
  cases hs : p.coalescing <;> simp [hs] <;> rfl

/-- A lookup that misses and finds no call to join asks the directory once. -/
theorem lookup_eq_of_miss (directory : Directory δ) (unshared : p.joined? u = none)
    (hc : p.cache.get? p.now u = none)
    (calm : p.coalescing = true → (directory u d).2.outcome.isCrash = false) :
    let asking : View := { p.view with
      now := p.view.now + (directory u d).2.elapsed, asked := p.view.asked ++ [u] }
    let answered := asking.answer u (directory u d).2.outcome
    ∃ log, p.lookup directory u d =
      ({ p with
          log
          cache := answered.1.cache
          now := p.now + (directory u d).2.elapsed
          inFlight := if p.coalescing then p.inFlight.filter (·.1 != u) else p.inFlight
          calls := p.calls ++ [⟨u, .ended (directory u d).2.outcome⟩]
          lookups := p.lookups ++ [⟨u, .finished answered.2⟩] },
        (directory u d).1, some answered.2) := by
  intro asking answered
  obtain ⟨-, hwait, -⟩ := launch_of_miss unshared hc
  have hawaited : (p.launch u).awaited? p.lookups.length = some p.calls.length := by
    simp [awaited?, hwait]
  obtain ⟨log, hcomplete⟩ := complete_launch directory (d := d) unshared hc calm
  generalize hq : (p.launch u).complete directory p.calls.length d = q at hcomplete
  obtain ⟨log', hresume⟩ := resume_newest (p := q.1) (u := u)
    (c := p.calls.length) (o := (directory u d).2.outcome) (by rw [hcomplete])
    (by simp [hcomplete, callState?])
  have hview : q.1.view = asking := by simp [hcomplete, view, asking]
  rw [hview] at hresume
  refine ⟨log', ?_⟩
  simp only [lookup, hawaited, hq, hresume, outcome?, answered]
  simp [hcomplete]

theorem lookup_of_hit (directory : Directory δ) {roles : RoleSet}
    (hc : p.cache.get? p.now u = some roles) :
    ∃ q, p.lookup directory u d = (q, d, some (.roles roles)) ∧ q.view = p.view := by
  obtain ⟨log, h⟩ := lookup_eq_of_hit directory (d := d) hc
  exact ⟨_, h, rfl⟩

theorem lookup_of_miss (directory : Directory δ) (alone : p.coalescing = false)
    (hc : p.cache.get? p.now u = none) :
    let asking : View := { p.view with
      now := p.view.now + (directory u d).2.elapsed, asked := p.view.asked ++ [u] }
    let answered := asking.answer u (directory u d).2.outcome
    ∃ q, p.lookup directory u d = (q, (directory u d).1, some answered.2) ∧
      q.view = answered.1 := by
  obtain ⟨log, h⟩ := lookup_eq_of_miss directory (d := d) (by simp [joined?, alone]) hc
    (by simp [alone])
  refine ⟨_, h, ?_⟩
  cases (directory u d).2.outcome <;> simp [view, View.answer]

end Provider

/-! ### The ledger -/

/-- One record per user, and the users that the directory was asked for. -/
structure Ledger where
  now : Nat := 0
  /-- The last roles of a user, and when they were written. -/
  records : String → Option (RoleSet × Nat) := fun _ => none
  asked : List String := []

namespace Ledger

/-- The roles of a user that are younger than some age. -/
def young? (m : Ledger) (age : Nat) (user : String) : Option RoleSet :=
  ((m.records user).filter fun record => m.now < record.2 + age).map (·.1)

/-- The ledger with another record of a user. -/
def record (m : Ledger) (user : String) (r : Option (RoleSet × Nat)) : Ledger :=
  { m with records := Function.update m.records user r }

/-- What a lookup makes of the answer of the directory. -/
def answer (m : Ledger) (user : String) : Outcome → Ledger × Outcome
  | .roles roles => (m.record user (some (roles, m.now)), .roles roles)
  | .failed e => (m, ((m.records user).map (.roles ·.1)).getD (.failed e))
  | .crashed message => (m, .crashed message)

/-- One operation on a ledger whose records are young up to some age. -/
def perform (age : Nat) (directory : Provider.Directory δ) (m : Ledger) (d : δ) :
    Operation → Ledger × δ × Option Outcome
  | .lookup user =>
    match m.young? age user with
    | some roles => (m, d, some (.roles roles))
    | none =>
      let (d, reply) := directory user d
      let m := { m with now := m.now + reply.elapsed, asked := m.asked ++ [user] }
      let (m, outcome) := m.answer user reply.outcome
      (m, d, some outcome)
  | .invalidate user => (m.record user none, d, none)
  | .invalidateAll => ({ m with records := fun _ => none }, d, none)
  | .advance millis => ({ m with now := m.now + millis }, d, none)

/-- Operations in a row, with the outcome of each. -/
def performAll (age : Nat) (directory : Provider.Directory δ) (m : Ledger) (d : δ) :
    List Operation → Ledger × δ × List (Option Outcome)
  | [] => (m, d, [])
  | op :: ops =>
    let (m, d, outcome) := m.perform age directory d op
    let (m, d, outcomes) := performAll age directory m d ops
    (m, d, outcome :: outcomes)

theorem performAll_cons (age : Nat) (directory : Provider.Directory δ) (m : Ledger) (d : δ)
    (op : Operation) (ops : List Operation) : m.performAll age directory d (op :: ops) =
      let first := m.perform age directory d op
      let rest := first.1.performAll age directory first.2.1 ops
      (rest.1, rest.2.1, first.2.2 :: rest.2.2) := rfl

end Ledger

/-! ### The provider keeps the ledger -/

namespace Provider

/-- Without coalescing, with both regions holding what a ledger has on record. -/
structure View.Keeps (w : View) (age : Nat) (m : Ledger) : Prop where
  alone : w.coalescing = false
  now : w.now = m.now
  asked : w.asked = m.asked
  primary : (w.cache.region .primary).lifetime = some age
  fallback : (w.cache.region .fallback).lifetime = none
  held : ∀ t user, (w.cache.region t).find? user = (m.records user).map fun r => ⟨user, r.1, r.2⟩

variable {directory : Directory δ} {p : Provider} {w : View} {d : δ} {age : Nat} {m : Ledger}
  {u : String}

namespace View.Keeps

theorem get? (h : w.Keeps age m) (user : String) :
    w.cache.get? w.now user = m.young? age user := by
  have hp := (Region.get?_of_lifetime h.primary w.now user).trans
    (congrArg _ (h.held .primary user))
  unfold Cache.get? Ledger.young?
  rw [show w.cache.primary = w.cache.region .primary from rfl, hp, h.now]
  cases m.records user <;> simp [Option.filter_some, apply_ite]

theorem getFromFallback? (h : w.Keeps age m) (user : String) :
    w.cache.getFromFallback? w.now user = (m.records user).map (·.1) := by
  have hf := (Region.get?_of_ageless h.fallback w.now user).trans (h.held .fallback user)
  unfold Cache.getFromFallback?
  rw [show w.cache.fallback = w.cache.region .fallback from rfl, hf]
  cases m.records user <;> rfl

theorem forget (h : w.Keeps age m) (user : String) :
    ({ w with cache := w.cache.invalidate user } : View).Keeps age (m.record user none) := by
  refine ⟨h.alone, h.now, h.asked, by simpa using h.primary, by simpa using h.fallback, ?_⟩
  intro t v
  simp only [Cache.region_invalidate, Region.find?_erase, h.held, Ledger.record]
  by_cases hv : user = v
  · subst hv
    simp
  · simp [hv, Function.update_of_ne (Ne.symm hv)]

theorem forgetAll (h : w.Keeps age m) :
    ({ w with cache := w.cache.invalidateAll } : View).Keeps age
      { m with records := fun _ => none } := by
  refine ⟨h.alone, h.now, h.asked, by simpa using h.primary, by simpa using h.fallback, ?_⟩
  intro t v
  simp

theorem advance (h : w.Keeps age m) (millis : Nat) :
    ({ w with now := w.now + millis } : View).Keeps age { m with now := m.now + millis } :=
  ⟨h.alone, congrArg (· + millis) h.now, h.asked, h.primary, h.fallback, h.held⟩

theorem ask (h : w.Keeps age m) (user : String) :
    ({ w with asked := w.asked ++ [user] } : View).Keeps age
      { m with asked := m.asked ++ [user] } :=
  ⟨h.alone, h.now, congrArg (· ++ [user]) h.asked, h.primary, h.fallback, h.held⟩

theorem put (h : w.Keeps age m) {user : String} (room : w.cache.HasRoomFor user)
    (roles : RoleSet) :
    ({ w with cache := w.cache.put w.now user roles } : View).Keeps age
      (m.record user (some (roles, m.now))) := by
  refine ⟨h.alone, h.now, h.asked, by simpa using h.primary, by simpa using h.fallback, ?_⟩
  intro t v
  simp only [Cache.find?_put room, h.held, Ledger.record]
  by_cases hv : user = v
  · subst hv
    simp [h.now]
  · simp [hv, Function.update_of_ne (Ne.symm hv)]

/-- The answer of the directory is dealt with alike. -/
theorem answer (h : w.Keeps age m) {user : String} {o : Outcome}
    (room : ∀ roles, o = .roles roles → w.cache.HasRoomFor user) :
    (w.answer user o).2 = (m.answer user o).2 ∧
      (w.answer user o).1.Keeps age (m.answer user o).1 := by
  cases o with
  | roles roles => exact ⟨rfl, h.put (room roles rfl) roles⟩
  | failed e =>
    refine ⟨?_, h⟩
    simp only [View.answer, Ledger.answer, h.getFromFallback?, Option.map_map]
    rfl
  | crashed message => exact ⟨rfl, h⟩

end View.Keeps

theorem perform_eq_ledger (h : p.view.Keeps age m) {op : Operation}
    (fits : p.Fits directory d op) :
    (p.perform directory d op).2 = (m.perform age directory d op).2 ∧
      (p.perform directory d op).1.view.Keeps age (m.perform age directory d op).1 := by
  cases op with
  | lookup user =>
    simp only [perform, Ledger.perform]
    have hget : p.cache.get? p.now user = m.young? age user := h.get? user
    cases hyoung : m.young? age user with
    | some roles =>
      obtain ⟨q, hq, hview⟩ :=
        lookup_of_hit directory (d := d) (hget.trans hyoung)
      rw [hq]
      exact ⟨rfl, hview ▸ h⟩
    | none =>
      obtain ⟨q, hq, hview⟩ :=
        lookup_of_miss directory (d := d) h.alone (hget.trans hyoung)
      have hasked := (h.ask user).advance (directory user d).2.elapsed
      obtain ⟨hout, hkeeps⟩ := hasked.answer (fits (hget.trans hyoung))
      rw [hq]
      exact ⟨Prod.ext rfl (congrArg some hout), hview ▸ hkeeps⟩
  | invalidate user => exact ⟨rfl, h.forget user⟩
  | invalidateAll => exact ⟨rfl, h.forgetAll⟩
  | advance millis => exact ⟨rfl, h.advance millis⟩

theorem performAll_eq (h : p.view.Keeps age m) {ops : List Operation}
    (room : p.Roomy directory d ops) :
    (p.performAll directory d ops).2 = (m.performAll age directory d ops).2 ∧
      (p.performAll directory d ops).1.view.Keeps age (m.performAll age directory d ops).1 := by
  induction ops generalizing p m d with
  | nil => exact ⟨rfl, h⟩
  | cons op ops ih =>
    obtain ⟨fits, room⟩ := room
    obtain ⟨heq, hkeeps⟩ := perform_eq_ledger h fits
    rw [heq] at room
    obtain ⟨hrest, hlast⟩ := ih hkeeps room
    simp only [performAll_cons, Ledger.performAll_cons, heq, hrest]
    exact ⟨trivial, hlast⟩

theorem keeps_ofCache {s : CacheSettings} {cache : Cache} (hb : s.build = .ok cache) :
    (ofCache false cache).view.Keeps s.timeToLive {} := by
  unfold CacheSettings.build at hb
  split at hb
  · cases hb
  · cases hb
    refine ⟨rfl, rfl, rfl, rfl, rfl, ?_⟩
    intro t user
    cases t <;> rfl

/-- **The provider is its ledger.** Without coalescing, and while no write drops an entry, all
operations have the outcomes that the ledger gives, the directory is asked for the same users in
the same order, and it is left in the same state. -/
theorem performAll_eq_ledger (directory : Directory δ) {s : CacheSettings} {cache : Cache}
    (hb : s.build = .ok cache) (d : δ) (ops : List Operation)
    (room : (ofCache false cache).Roomy directory d ops) :
    let run := (ofCache false cache).performAll directory d ops
    let ledger := Ledger.performAll s.timeToLive directory {} d ops
    run.2 = ledger.2 ∧ run.1.calls.map (·.user) = ledger.1.asked := by
  obtain ⟨heq, hkeeps⟩ := performAll_eq (keeps_ofCache hb) room
  exact ⟨heq, hkeeps.asked⟩

/-- A directory that knows everybody when it is first asked, and is down from then on. -/
def onceUp : Directory Nat := fun _ asked =>
  (asked + 1, { outcome :=
    if asked = 0 then .roles (RoleSet.ofList ["devs"]) else .failed .unavailable })

theorem performAll_eq_ledger_onceUp :
    let s : CacheSettings := { maxEntries := 1, timeToLive := 100 }
    let cache : Cache := ⟨⟨1, some 100, []⟩, ⟨1, none, []⟩⟩
    let ops : List Operation := [.lookup "alice", .lookup "alice", .advance 150, .lookup "alice",
      .invalidate "alice", .lookup "alice"]
    let run := (ofCache false cache).performAll onceUp 0 ops
    let ledger := Ledger.performAll 100 onceUp {} 0 ops
    s.build = .ok cache ∧ (ofCache false cache).Roomy onceUp 0 ops ∧
      run.2 = ledger.2 ∧ run.1.calls.map (·.user) = ledger.1.asked ∧
      run.2.2 = [some (.roles (RoleSet.ofList ["devs"])), some (.roles (RoleSet.ofList ["devs"])),
        none, some (.roles (RoleSet.ofList ["devs"])), none, some (.failed .unavailable)] ∧
      run.1.calls.map (·.user) = ["alice", "alice", "alice"] := by
  have hb : ({ maxEntries := 1, timeToLive := 100 } : CacheSettings).build =
      .ok ⟨⟨1, some 100, []⟩, ⟨1, none, []⟩⟩ := rfl
  have room : (ofCache false ⟨⟨1, some 100, []⟩, ⟨1, none, []⟩⟩).Roomy onceUp 0
      [.lookup "alice", .lookup "alice", .advance 150, .lookup "alice", .invalidate "alice",
        .lookup "alice"] :=
    ⟨fun _ _ _ => by decide, fun _ _ _ => by decide, trivial, fun _ _ _ => by decide, trivial,
      fun _ _ _ => by decide, trivial⟩
  obtain ⟨heq, hasked⟩ := performAll_eq_ledger onceUp hb 0 _ room
  exact ⟨hb, room, heq, hasked, by decide, by decide⟩

end Provider

end RoleLookup
