import RoleLookup.Provider.Basic

/-!
# What one step of the provider can do

`Fires` lists what a step can do, with its guards and up to the events that it logs. `step_fires`
says that the list is complete, so that no other module has to open the steps.

* `run_induction`, `Along.induction`, a property that every step keeps, or every step that meets a
  condition, holds after a run;
* `getElem?_setPhase`, `getElem?_setCall`, one lookup or one call changed;
* `check_of_hit` and so on, the steps in a state in which they apply;
* `finish_fires`, `resume_fires`, whole steps as their two halves.
-/

namespace RoleLookup
namespace Provider

/-! ### Everything a step can do -/

/-- What a step of the provider can do, up to the events that it logs. -/
inductive Fires (p : Provider) : Step → Provider → Prop
  /-- The step does not apply. -/
  | idle {s} : Fires p s p
  | start (u) : Fires p (.start u) { p with lookups := p.lookups ++ [⟨u, .started⟩] }
  | hit {l u roles} (events) (hl : p.lookups[l]? = some ⟨u, .started⟩)
      (hc : p.cache.get? p.now u = some roles) :
      Fires p (.check l) ((p.note u events).setPhase l (.finished (.roles roles)))
  | miss {l u} (events) (hl : p.lookups[l]? = some ⟨u, .started⟩)
      (hc : p.cache.get? p.now u = none) :
      Fires p (.check l) ((p.note u events).setPhase l .missed)
  | join {l u c} (hl : p.lookups[l]? = some ⟨u, .missed⟩) (hj : p.joined? u = some c) :
      Fires p (.ask l) (p.setPhase l (.waiting c))
  | call {l u} (hl : p.lookups[l]? = some ⟨u, .missed⟩) (hj : p.joined? u = none) :
      Fires p (.ask l) ({ p with
        calls := p.calls ++ [{ user := u, state := .running : Call }]
        inFlight := if p.coalescing then (u, p.calls.length) :: p.inFlight else p.inFlight
        }.setPhase l (.waiting p.calls.length))
  | answer {c u o} (hc : p.calls[c]? = some ⟨u, .running⟩) (shared : p.coalescing = true)
      (ho : o.isCrash = false) : Fires p (.answer c o) (p.setCall c (.answered o))
  | withdraw {s c u o} (hs : s = .withdraw c ∨ ∃ o', s = .finish c o')
      (hc : p.calls[c]? = some ⟨u, .answered o⟩) :
      Fires p s { p.setCall c (.ended o) with inFlight := p.inFlight.filter (·.1 != u) }
  | finish {c u o} (hc : p.calls[c]? = some ⟨u, .running⟩) (shared : p.coalescing = true)
      (ho : o.isCrash = false) :
      Fires p (.finish c o) { p.setCall c (.ended o) with
        inFlight := p.inFlight.filter (·.1 != u) }
  | burst {s c u o} (hs : s = .answer c o ∨ s = .finish c o)
      (hc : p.calls[c]? = some ⟨u, .running⟩) (shared : p.coalescing = true)
      (ho : o.isCrash = true) : Fires p s (p.setCall c (.ended (reported c o)))
  | alone {s c u o} (hs : s = .answer c o ∨ s = .finish c o)
      (hc : p.calls[c]? = some ⟨u, .running⟩) (alone : p.coalescing = false) :
      Fires p s (p.setCall c (.ended o))
  | write {l u c roles} (hl : p.lookups[l]? = some ⟨u, .waiting c⟩)
      (hc : p.callState? c = some (.ended (.roles roles))) :
      Fires p (.receive l) ({ p.note u [Cache.putEvent u] with
        cache := p.cache.insert .primary ⟨u, roles, p.now⟩ }.setPhase l
          (.storing c ⟨u, roles, p.now⟩))
  | store {s l u c e} (hs : s = .store l ∨ s = .resume l)
      (hl : p.lookups[l]? = some ⟨u, .storing c e⟩) :
      Fires p s ({ p with cache := p.cache.insert .fallback e }.setPhase l
        (.finished (.roles e.roles)))
  | resume {l u c roles} (hl : p.lookups[l]? = some ⟨u, .waiting c⟩)
      (hc : p.callState? c = some (.ended (.roles roles))) :
      Fires p (.resume l) ({ p.note u [Cache.putEvent u] with
        cache := p.cache.put p.now u roles }.setPhase l (.finished (.roles roles)))
  | fallBack {s l u c e roles} (events) (hs : s = .receive l ∨ s = .resume l)
      (hl : p.lookups[l]? = some ⟨u, .waiting c⟩)
      (hc : p.callState? c = some (.ended (.failed e)))
      (hf : p.cache.getFromFallback? p.now u = some roles) :
      Fires p s ((p.note u events).setPhase l (.finished (.roles roles)))
  | fail {s l u c e} (events) (hs : s = .receive l ∨ s = .resume l)
      (hl : p.lookups[l]? = some ⟨u, .waiting c⟩)
      (hc : p.callState? c = some (.ended (.failed e)))
      (hf : p.cache.getFromFallback? p.now u = none) :
      Fires p s ((p.note u events).setPhase l (.finished (.failed e)))
  | crash {s l u c m} (hs : s = .receive l ∨ s = .resume l)
      (hl : p.lookups[l]? = some ⟨u, .waiting c⟩)
      (hc : p.callState? c = some (.ended (.crashed m))) :
      Fires p s (p.setPhase l (.finished (.crashed m)))
  | abandon {l u phase} (hl : p.lookups[l]? = some ⟨u, phase⟩)
      (hp : phase = .started ∨ phase = .missed ∨ ∃ c, phase = .waiting c) :
      Fires p (.abandon l) (p.setPhase l .abandoned)
  | drop {l u c} (hl : p.lookups[l]? = some ⟨u, .waiting c⟩) (alone : p.coalescing = false)
      (hc : p.callState? c = some .running) :
      Fires p (.abandon l) ((p.setPhase l .abandoned).setCall c .dropped)
  | put (u roles) : Fires p (.put u roles)
      { p with cache := p.cache.put p.now u roles, log := p.log ++ [Cache.putEvent u] }
  | erase (t u) : Fires p (.erase t u) { p with cache := p.cache.erase t u }
  | clear (t) : Fires p (.clear t) { p with cache := p.cache.clear t }
  | invalidate (u) : Fires p (.invalidate u) { p with cache := p.cache.invalidate u }
  | invalidateAll : Fires p .invalidateAll { p with cache := p.cache.invalidateAll }
  | advance (millis) : Fires p (.advance millis) { p with now := p.now + millis }

variable {p q : Provider} {s : Step} {ss : List Step} {l c : Nat} {u v : String}

/-! ### Runs -/

/-- A property that every step keeps is kept by a run. -/
theorem run_induction {P : Provider → Prop} (keep : ∀ p s, s ∈ ss → P p → P (p.step s))
    (h : P p) : P (p.run ss) := by
  induction ss generalizing p with
  | nil => exact h
  | cons s ss ih =>
    exact ih (fun p t ht => keep p t (List.mem_cons_of_mem s ht)) (keep p s List.mem_cons_self h)

/-- A condition on each step of a run, in the state in which it is taken. -/
def Along (C : Provider → Step → Prop) (p : Provider) : List Step → Prop
  | [] => True
  | s :: ss => C p s ∧ Along C (p.step s) ss

instance decidableAlong {C : Provider → Step → Prop} [∀ p s, Decidable (C p s)]
    (p : Provider) : (ss : List Step) → Decidable (Along C p ss)
  | [] => .isTrue trivial
  | s :: ss =>
    have := decidableAlong (C := C) (p.step s) ss
    inferInstanceAs (Decidable (_ ∧ _))

theorem Along.append {C : Provider → Step → Prop} {ss ts : List Step} :
    Along C p (ss ++ ts) ↔ Along C p ss ∧ Along C (p.run ss) ts := by
  induction ss generalizing p with
  | nil => simp [Along]
  | cons s ss ih => simp only [List.cons_append, Along, ih, run_cons, and_assoc]

/-- A property kept by every step that meets a condition is kept by a run of such steps. -/
theorem Along.induction {C : Provider → Step → Prop} {P : Provider → Prop}
    (steps : Along C p ss) (keep : ∀ p s, s ∈ ss → C p s → P p → P (p.step s)) (h : P p) :
    P (p.run ss) := by
  induction ss generalizing p with
  | nil => exact h
  | cons s ss ih =>
    obtain ⟨hs, hss⟩ := steps
    exact ih hss (fun p t ht => keep p t (List.mem_cons_of_mem s ht))
      (keep p s List.mem_cons_self hs h)

/-! ### One lookup or one call changed -/

section Frames

variable (p) (l c : Nat) (user : String) (events : List Log.Event) (phase : Phase)
  (state : CallState)

@[simp] theorem note_coalescing : (p.note user events).coalescing = p.coalescing := rfl
@[simp] theorem note_cache : (p.note user events).cache = p.cache := rfl
@[simp] theorem note_now : (p.note user events).now = p.now := rfl
@[simp] theorem note_inFlight : (p.note user events).inFlight = p.inFlight := rfl
@[simp] theorem note_calls : (p.note user events).calls = p.calls := rfl
@[simp] theorem note_lookups : (p.note user events).lookups = p.lookups := rfl

@[simp] theorem setPhase_coalescing : (p.setPhase l phase).coalescing = p.coalescing := rfl
@[simp] theorem setPhase_cache : (p.setPhase l phase).cache = p.cache := rfl
@[simp] theorem setPhase_now : (p.setPhase l phase).now = p.now := rfl
@[simp] theorem setPhase_inFlight : (p.setPhase l phase).inFlight = p.inFlight := rfl
@[simp] theorem setPhase_calls : (p.setPhase l phase).calls = p.calls := rfl

@[simp] theorem setCall_coalescing : (p.setCall c state).coalescing = p.coalescing := rfl
@[simp] theorem setCall_cache : (p.setCall c state).cache = p.cache := rfl
@[simp] theorem setCall_now : (p.setCall c state).now = p.now := rfl
@[simp] theorem setCall_inFlight : (p.setCall c state).inFlight = p.inFlight := rfl
@[simp] theorem setCall_lookups : (p.setCall c state).lookups = p.lookups := rfl

theorem getElem?_setPhase (k : Nat) : (p.setPhase l phase).lookups[k]? =
    (p.lookups[k]?).map fun x => if l = k then { x with phase } else x := by
  simp only [setPhase, List.getElem?_modify]
  by_cases h : l = k <;> simp [h]

theorem getElem?_setCall (k : Nat) : (p.setCall c state).calls[k]? =
    (p.calls[k]?).map fun x => if c = k then { x with state } else x := by
  simp only [setCall, List.getElem?_modify]
  by_cases h : c = k <;> simp [h]

end Frames

theorem callState?_eq_some {state : CallState} :
    p.callState? c = some state ↔ ∃ user, p.calls[c]? = some ⟨user, state⟩ := by
  simp only [callState?, Option.map_eq_some_iff]
  constructor
  · rintro ⟨⟨user, _⟩, h, rfl⟩
    exact ⟨user, h⟩
  · rintro ⟨user, h⟩
    exact ⟨_, h, rfl⟩

theorem outcome?_eq_some {o : Outcome} :
    p.outcome? l = some o ↔ ∃ user, p.lookups[l]? = some ⟨user, .finished o⟩ := by
  unfold outcome?
  constructor
  · intro h
    split at h
    · rename_i user _ hl
      cases h
      exact ⟨user, hl⟩
    · cases h
  · rintro ⟨user, hl⟩
    rw [hl]

theorem awaited?_eq_some :
    p.awaited? l = some c ↔ ∃ u, p.lookups[l]? = some ⟨u, .waiting c⟩ := by
  unfold awaited?
  constructor
  · intro h
    split at h
    · rename_i u _ hl
      cases h
      exact ⟨u, hl⟩
    · cases h
  · rintro ⟨u, hl⟩
    rw [hl]

/-! ### Steps that apply -/

theorem check_of_hit {roles : RoleSet} (hl : p.lookups[l]? = some ⟨u, .started⟩)
    (hc : p.cache.get? p.now u = some roles) :
    p.check l = (p.note u [event .debug "cache hit" []]).setPhase l (.finished (.roles roles)) := by
  simp [check, hl, hc]

theorem check_of_miss (hl : p.lookups[l]? = some ⟨u, .started⟩)
    (hc : p.cache.get? p.now u = none) :
    p.check l = (p.note u [event .debug "cache miss" []]).setPhase l .missed := by
  simp [check, hl, hc]

theorem check_eq_self (h : ∀ u, p.lookups[l]? ≠ some ⟨u, .started⟩) : p.check l = p := by
  unfold check
  split
  · rename_i hl
    exact absurd hl (h _)
  · rfl

theorem ask_of_joined (hl : p.lookups[l]? = some ⟨u, .missed⟩) (hj : p.joined? u = some c) :
    p.ask l = p.setPhase l (.waiting c) := by
  simp [ask, hl, hj]

theorem ask_of_not_joined (hl : p.lookups[l]? = some ⟨u, .missed⟩) (hj : p.joined? u = none) :
    p.ask l = { p with
      calls := p.calls ++ [{ user := u, state := .running : Call }]
      inFlight := if p.coalescing then (u, p.calls.length) :: p.inFlight else p.inFlight
      }.setPhase l (.waiting p.calls.length) := by
  simp [ask, hl, hj]

theorem ask_eq_self (h : ∀ u, p.lookups[l]? ≠ some ⟨u, .missed⟩) : p.ask l = p := by
  unfold ask
  split
  · rename_i hl
    exact absurd hl (h _)
  · rfl

theorem answer_of_shared {o : Outcome} (hc : p.calls[c]? = some ⟨u, .running⟩)
    (shared : p.coalescing = true) (ho : o.isCrash = false) :
    p.answer c o = p.setCall c (.answered o) := by
  simp [answer, hc, shared, ho]

theorem answer_of_crash {o : Outcome} (hc : p.calls[c]? = some ⟨u, .running⟩)
    (shared : p.coalescing = true) (ho : o.isCrash = true) :
    p.answer c o = p.setCall c (.ended (reported c o)) := by
  simp [answer, hc, shared, ho]

theorem answer_of_alone {o : Outcome} (hc : p.calls[c]? = some ⟨u, .running⟩)
    (alone : p.coalescing = false) : p.answer c o = p.setCall c (.ended o) := by
  simp [answer, hc, alone]

theorem answer_eq_self (h : ∀ u, p.calls[c]? ≠ some ⟨u, .running⟩) (o : Outcome) :
    p.answer c o = p := by
  unfold answer
  split
  · rename_i hc
    exact absurd hc (h _)
  · rfl

theorem withdraw_of_answered {o : Outcome} (hc : p.calls[c]? = some ⟨u, .answered o⟩) :
    p.withdraw c = { p.setCall c (.ended o) with
      inFlight := p.inFlight.filter (·.1 != u) } := by
  simp [withdraw, hc]

theorem withdraw_eq_self (h : ∀ u o, p.calls[c]? ≠ some ⟨u, .answered o⟩) :
    p.withdraw c = p := by
  unfold withdraw
  split
  · rename_i hc
    exact absurd hc (h _ _)
  · rfl

theorem withdraw_setCall_ended {o : Outcome} : (p.setCall c (.ended o)).withdraw c =
    p.setCall c (.ended o) := by
  apply withdraw_eq_self
  intro v o' h
  rw [getElem?_setCall] at h
  simp at h

/-- A whole `finish` of a shared call that did not crash. -/
theorem finish_of_shared {o : Outcome} (hc : p.calls[c]? = some ⟨u, .running⟩)
    (shared : p.coalescing = true) (ho : o.isCrash = false) :
    (p.answer c o).withdraw c = { p.setCall c (.ended o) with
      inFlight := p.inFlight.filter (·.1 != u) } := by
  rw [answer_of_shared hc shared ho, withdraw_of_answered (u := u) (o := o)]
  · simp [setCall, List.modify_modify_eq, Function.comp_def]
  · simp [getElem?_setCall, hc]

/-- A whole `finish` of a shared call that crashed. -/
theorem finish_of_crash {o : Outcome} (hc : p.calls[c]? = some ⟨u, .running⟩)
    (shared : p.coalescing = true) (ho : o.isCrash = true) :
    (p.answer c o).withdraw c = p.setCall c (.ended (reported c o)) := by
  rw [answer_of_crash hc shared ho, withdraw_setCall_ended]

/-- A whole `finish` of a call that is not shared. -/
theorem finish_of_alone {o : Outcome} (hc : p.calls[c]? = some ⟨u, .running⟩)
    (alone : p.coalescing = false) :
    (p.answer c o).withdraw c = p.setCall c (.ended o) := by
  rw [answer_of_alone hc alone, withdraw_setCall_ended]

theorem receive_of_ended {o : Outcome} (hl : p.lookups[l]? = some ⟨u, .waiting c⟩)
    (hc : p.callState? c = some (.ended o)) : p.receive l = p.take l u c o := by
  simp [receive, hl, hc]

theorem receive_eq_self (h : ∀ u c o, p.lookups[l]? = some ⟨u, .waiting c⟩ →
    p.callState? c ≠ some (.ended o)) : p.receive l = p := by
  unfold receive
  split
  · rename_i hl
    split
    · rename_i hc
      exact absurd hc (h _ _ _ hl)
    · rfl
  · rfl

theorem store_of_storing {e : Entry} (hl : p.lookups[l]? = some ⟨u, .storing c e⟩) :
    p.store l = { p with cache := p.cache.insert .fallback e }.setPhase l
      (.finished (.roles e.roles)) := by
  simp [store, hl]

theorem store_eq_self (h : ∀ u c e, p.lookups[l]? ≠ some ⟨u, .storing c e⟩) : p.store l = p := by
  unfold store
  split
  · rename_i hl
    exact absurd hl (h _ _ _)
  · rfl

/-- The second half of a `resume` of a call that gave roles. -/
theorem store_take {roles : RoleSet} (hl : p.lookups[l]? = some ⟨u, .waiting c⟩) :
    (p.take l u c (.roles roles)).store l = { p.note u [Cache.putEvent u] with
      cache := p.cache.put p.now u roles }.setPhase l (.finished (.roles roles)) := by
  have hs : (p.take l u c (.roles roles)).lookups[l]? =
      some ⟨u, .storing c ⟨u, roles, p.now⟩⟩ := by
    simp [take, getElem?_setPhase, hl]
  rw [store_of_storing hs]
  simp [take, Cache.put, setPhase, List.modify_modify_eq, Function.comp_def]

/-- A whole `resume` of a call that gave roles. -/
theorem resume_of_roles {roles : RoleSet} (hl : p.lookups[l]? = some ⟨u, .waiting c⟩)
    (hc : p.callState? c = some (.ended (.roles roles))) :
    p.step (.resume l) = { p.note u [Cache.putEvent u] with
      cache := p.cache.put p.now u roles }.setPhase l (.finished (.roles roles)) := by
  rw [step, receive_of_ended hl hc, store_take hl]

/-- What becomes of a lookup whose call has failed. -/
theorem serveFallback_eq (p : Provider) (l : Nat) (u : String) (e : LookupError) :
    ∃ events, p.serveFallback l u e = (p.note u events).setPhase l
      (.finished (((p.cache.getFromFallback? p.now u).map .roles).getD (.failed e))) := by
  unfold serveFallback
  split <;> rename_i hf
  · exact ⟨_, by rw [hf]; rfl⟩
  · exact ⟨_, by rw [hf]; rfl⟩

theorem store_serveFallback {e : LookupError} (hl : p.lookups[l]? = some ⟨u, .waiting c⟩) :
    (p.serveFallback l u e).store l = p.serveFallback l u e := by
  obtain ⟨events, h⟩ := serveFallback_eq p l u e
  exact store_eq_self (by simp [h, getElem?_setPhase, hl])

/-- A whole `resume` of a call that failed. -/
theorem resume_of_failed {e : LookupError} (hl : p.lookups[l]? = some ⟨u, .waiting c⟩)
    (hc : p.callState? c = some (.ended (.failed e))) :
    ∃ events, p.step (.resume l) = (p.note u events).setPhase l
      (.finished (((p.cache.getFromFallback? p.now u).map .roles).getD (.failed e))) := by
  rw [step, receive_of_ended hl hc, take, store_serveFallback hl]
  exact serveFallback_eq p l u e

/-- A whole `resume` of a call that crashed. -/
theorem resume_of_crashed {m : String} (hl : p.lookups[l]? = some ⟨u, .waiting c⟩)
    (hc : p.callState? c = some (.ended (.crashed m))) :
    p.step (.resume l) = p.setPhase l (.finished (.crashed m)) := by
  rw [step, receive_of_ended hl hc, take, store_eq_self (by simp [getElem?_setPhase, hl])]

/-! ### The list is complete -/

theorem check_fires (p : Provider) (l : Nat) : Fires p (.check l) (p.check l) := by
  unfold check
  split
  · rename_i hl
    split
    · rename_i hc
      exact .hit _ hl hc
    · rename_i hc
      exact .miss _ hl hc
  · exact .idle

theorem ask_fires (p : Provider) (l : Nat) : Fires p (.ask l) (p.ask l) := by
  unfold ask
  split
  · rename_i hl
    split
    · rename_i hj
      exact .join hl hj
    · rename_i hj
      exact .call hl hj
  · exact .idle

theorem answer_fires (p : Provider) (c : Nat) (o : Outcome) :
    Fires p (.answer c o) (p.answer c o) := by
  unfold answer
  split
  · rename_i hc
    split
    · rename_i shared
      split
      · rename_i ho
        exact .burst (.inl rfl) hc shared ho
      · rename_i ho
        exact .answer hc shared (by simpa using ho)
    · rename_i alone
      exact .alone (.inl rfl) hc (by simpa using alone)
  · exact .idle

theorem withdraw_fires (hs : s = .withdraw c ∨ ∃ o, s = .finish c o) :
    Fires p s (p.withdraw c) := by
  unfold withdraw
  split
  · rename_i hc
    exact .withdraw hs hc
  · exact .idle

/-- A whole `finish` is an `answer` that ends the call, a `withdraw`, or both. -/
theorem finish_fires (p : Provider) (c : Nat) (o : Outcome) :
    Fires p (.finish c o) ((p.answer c o).withdraw c) := by
  by_cases hrun : ∃ u, p.calls[c]? = some ⟨u, .running⟩
  · obtain ⟨u, hc⟩ := hrun
    cases hs : p.coalescing with
    | false =>
      rw [finish_of_alone hc hs]
      exact .alone (.inr rfl) hc hs
    | true =>
      cases ho : o.isCrash with
      | false =>
        rw [finish_of_shared hc hs ho]
        exact .finish hc hs ho
      | true =>
        rw [finish_of_crash hc hs ho]
        exact .burst (.inr rfl) hc hs ho
  -- A call that does not run may still have an answer that nobody has seen.
  · rw [answer_eq_self fun u hc => hrun ⟨u, hc⟩]
    exact withdraw_fires (.inr ⟨o, rfl⟩)

theorem abandon_fires (p : Provider) (l : Nat) : Fires p (.abandon l) (p.abandon l) := by
  unfold abandon
  split
  · rename_i hl
    exact .abandon hl (.inl rfl)
  · rename_i hl
    exact .abandon hl (.inr (.inl rfl))
  · rename_i c hl
    have left : Fires p (.abandon l) (p.setPhase l .abandoned) :=
      .abandon hl (.inr (.inr ⟨c, rfl⟩))
    simp only
    split
    · exact left
    · rename_i alone
      split
      · rename_i hc
        exact .drop hl (by simpa using alone) hc
      · exact left
  · exact .idle

theorem store_fires (hs : s = .store l ∨ s = .resume l) : Fires p s (p.store l) := by
  unfold store
  split
  · rename_i hl
    exact .store hs hl
  · exact .idle

theorem serveFallback_fires {e : LookupError} (hs : s = .receive l ∨ s = .resume l)
    (hl : p.lookups[l]? = some ⟨u, .waiting c⟩)
    (hc : p.callState? c = some (.ended (.failed e))) : Fires p s (p.serveFallback l u e) := by
  unfold serveFallback
  split
  · rename_i hf
    exact .fallBack _ hs hl hc hf
  · rename_i hf
    exact .fail _ hs hl hc hf

theorem receive_fires (p : Provider) (l : Nat) : Fires p (.receive l) (p.receive l) := by
  unfold receive
  split
  · rename_i hl
    split
    · rename_i o hc
      cases o with
      | roles roles => exact .write hl hc
      | failed e => exact serveFallback_fires (.inl rfl) hl hc
      | crashed m => exact .crash (.inl rfl) hl hc
    · exact .idle
  · exact .idle

/-- A whole `resume` is a `receive` after which there is nothing to store, a `store`, or both. -/
theorem resume_fires (p : Provider) (l : Nat) : Fires p (.resume l) ((p.receive l).store l) := by
  unfold receive
  split
  · rename_i u c hl
    split
    · rename_i o hc
      cases o with
      | roles roles =>
        rw [store_take hl]
        exact .resume hl hc
      -- After a failure or a crash the lookup is over, and there is nothing to store.
      | failed e =>
        rw [take, store_serveFallback hl]
        exact serveFallback_fires (.inr rfl) hl hc
      | crashed m =>
        rw [store_eq_self]
        · exact .crash (.inr rfl) hl hc
        · simp [take, getElem?_setPhase, hl]
    · exact store_fires (.inr rfl)
  · exact store_fires (.inr rfl)

/-- Each step does one of the things listed. -/
theorem step_fires (p : Provider) (s : Step) : Fires p s (p.step s) := by
  cases s with
  | start u => exact .start u
  | check l => exact check_fires p l
  | ask l => exact ask_fires p l
  | answer c o => exact answer_fires p c o
  | withdraw c => exact withdraw_fires (.inl rfl)
  | finish c o => exact finish_fires p c o
  | receive l => exact receive_fires p l
  | store l => exact store_fires (.inl rfl)
  | resume l => exact resume_fires p l
  | abandon l => exact abandon_fires p l
  | put u roles => exact .put u roles
  | erase t u => exact .erase t u
  | clear t => exact .clear t
  | invalidate u => exact .invalidate u
  | invalidateAll => exact .invalidateAll
  | advance millis => exact .advance millis

end Provider
end RoleLookup
