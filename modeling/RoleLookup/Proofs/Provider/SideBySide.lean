import RoleLookup.Proofs.Provider.FailedCalls

/-!
# Two runs side by side

Two runs with coalescing take the same steps, but in the first of them some callers who share a call
give up.

* `Alike`, what both providers have in common until the call has given roles, with `Alike.step` for
  a step of both and `Alike.leave` for a caller who gives up in the first;
* `Over`, what they have in common from then on, with `Over.step` and `Over.leave`;
* `InStep`, one lookup in both of them, with `InStep.step`.
-/

namespace RoleLookup
namespace Provider

/-- The lookup is over. -/
def Phase.IsOver : Phase → Prop
  | .finished _ | .abandoned => True
  | _ => False

/-- What a lookup can come to once it has joined a call. -/
def Phase.HasJoined (c : Nat) : Phase → Prop
  | .started | .missed => False
  | .waiting d | .storing d _ => d = c
  | .finished _ | .abandoned => True

instance (c : Nat) (phase : Phase) : Decidable (phase.HasJoined c) :=
  match phase with
  | .started | .missed => .isFalse id
  | .waiting d | .storing d _ => inferInstanceAs (Decidable (d = c))
  | .finished _ | .abandoned => .isTrue trivial

/-- In the first run the caller of a lookup has given up. In the second it has not, and the lookup
waits for a call or is over. -/
def GoesOn (c : Nat) (x y : Option Lookup) : Prop :=
  ∃ u phase, x = some ⟨u, .abandoned⟩ ∧ y = some ⟨u, phase⟩ ∧ (phase = .waiting c ∨ phase.IsOver)

/-- Two providers with coalescing are alike, but for lookups of `gone` that only go on in the
second. -/
structure Alike (gone : Nat → Bool) (c : Nat) (p q : Provider) : Prop where
  shared : p.coalescing = true
  coalescing : p.coalescing = q.coalescing
  cache : p.cache = q.cache
  now : p.now = q.now
  inFlight : p.inFlight = q.inFlight
  calls : p.calls = q.calls
  count : p.lookups.length = q.lookups.length
  records : ∀ l, p.lookups[l]? = q.lookups[l]? ∨
    gone l = true ∧ GoesOn c p.lookups[l]? q.lookups[l]?

/-- Two providers are alike, and one lookup is as far in both. -/
structure AlikeAt (gone : Nat → Bool) (c l : Nat) (p q : Provider) : Prop extends
    Alike gone c p q where
  record : p.lookups[l]? = q.lookups[l]?

variable {gone : Nat → Bool} {p q : Provider} {s : Step} {l k c d : Nat} {u v : String}
  {o : Outcome} {phase : Phase}

/-! ### Lookups that a step is nothing to -/

theorem lookups_step_of_not (hk : p.lookups[l]? = some ⟨u, phase⟩)
    (h : ∀ phase', ¬ Moves p l u s phase phase') : (p.step s).lookups[l]? = some ⟨u, phase⟩ := by
  obtain ⟨phase', hphase, rfl | m⟩ := lookups_step hk s
  · exact hphase
  · exact absurd m (h phase')

/-- Nothing happens in a step of a lookup that is over. -/
theorem step_of_over (hk : p.lookups[l]? = some ⟨u, phase⟩) (past : phase.IsOver)
    (hs : s.lookup? = some l) : p.step s = p := by
  have ne {phase' : Phase} (h : ¬ phase'.IsOver) (v : String) :
      p.lookups[l]? ≠ some ⟨v, phase'⟩ := by
    rw [hk]
    rintro ⟨⟩
    exact h past
  cases s with
  | check j =>
    cases hs
    exact check_eq_self (ne id)
  | ask j =>
    cases hs
    exact ask_eq_self (ne id)
  | receive j =>
    cases hs
    exact receive_eq_self fun v _ _ h => absurd h (ne id v)
  | store j =>
    cases hs
    exact store_eq_self fun v _ _ => ne id v
  | resume j =>
    cases hs
    rw [step, receive_eq_self fun v _ _ h => absurd h (ne id v), store_eq_self fun v _ _ => ne id v]
  | abandon j =>
    cases hs
    cases phase with
    | finished | abandoned => simp [step, abandon, hk]
    | _ => exact past.elim
  | _ => cases hs

/-- A lookup that is put into the phase in which it is. -/
theorem setPhase_eq_self (hl : p.lookups[l]? = some ⟨u, phase⟩) : p.setPhase l phase = p := by
  have hsame : (p.setPhase l phase).lookups = p.lookups := by
    apply List.ext_getElem?
    intro k
    rw [getElem?_setPhase]
    by_cases hk : l = k
    · subst hk
      simp [hl]
    · simp [hk]
  exact congrArg (fun lookups => { p with lookups }) hsame

/-! ### Both providers change alike -/

namespace Alike

theorem callState? (h : Alike gone c p q) (d : Nat) : p.callState? d = q.callState? d := by
  rw [Provider.callState?, Provider.callState?, h.calls]

theorem joined? (h : Alike gone c p q) (u : String) : p.joined? u = q.joined? u := by
  rw [Provider.joined?, Provider.joined?, Provider.inFlight?, Provider.inFlight?, h.coalescing,
    h.inFlight]

theorem setCall (h : Alike gone c p q) (d : Nat) (state : CallState) :
    Alike gone c (p.setCall d state) (q.setCall d state) :=
  { h with calls := congrArg (·.modify d fun k => { k with state }) h.calls }

/-- One lookup is put into another phase in each. -/
theorem setPhase (h : Alike gone c p q) (phase phase' : Phase)
    (hl : (p.setPhase l phase).lookups[l]? = (q.setPhase l phase').lookups[l]? ∨
      gone l = true ∧
        GoesOn c (p.setPhase l phase).lookups[l]? (q.setPhase l phase').lookups[l]?) :
    Alike gone c (p.setPhase l phase) (q.setPhase l phase') := by
  refine { h with count := ?_, records := ?_ }
  · simp [Provider.setPhase, h.count]
  · intro k
    by_cases hk : l = k
    · subst hk
      exact hl
    · simpa [getElem?_setPhase, hk] using h.records k

theorem answer (h : Alike gone c p q) (d : Nat) (o : Outcome) :
    Alike gone c (p.answer d o) (q.answer d o) := by
  unfold Provider.answer
  rw [← h.calls, ← h.coalescing]
  split
  · split
    · exact h.setCall d _
    · exact h.setCall d _
  · exact h

theorem withdraw (h : Alike gone c p q) (d : Nat) :
    Alike gone c (p.withdraw d) (q.withdraw d) := by
  unfold Provider.withdraw
  rw [← h.calls]
  split
  · exact { h.setCall d _ with inFlight := congrArg (List.filter _) h.inFlight }
  · exact h

/-- A lookup starts in both. -/
theorem start (h : Alike gone c p q) (u : String) :
    Alike gone c (p.step (.start u)) (q.step (.start u)) := by
  refine { h with count := ?_, records := ?_ }
  · simp [step, h.count]
  · intro l
    simp only [step, List.getElem?_append, h.count]
    split
    · exact h.records l
    · exact .inl rfl

end Alike

namespace AlikeAt

theorem setPhase (h : AlikeAt gone c l p q) (phase : Phase) :
    AlikeAt gone c l (p.setPhase l phase) (q.setPhase l phase) := by
  have hl : (p.setPhase l phase).lookups[l]? = (q.setPhase l phase).lookups[l]? := by
    rw [getElem?_setPhase, getElem?_setPhase, h.record]
  exact { h.toAlike.setPhase phase phase (.inl hl) with record := hl }

theorem check (h : AlikeAt gone c l p q) : AlikeAt gone c l (p.check l) (q.check l) := by
  unfold Provider.check
  rw [← h.record, ← h.cache, ← h.now]
  split
  · split
    · exact AlikeAt.setPhase (p := p.note _ _) (q := q.note _ _) { h with } _
    · exact AlikeAt.setPhase (p := p.note _ _) (q := q.note _ _) { h with } _
  · exact h

theorem ask (h : AlikeAt gone c l p q) : AlikeAt gone c l (p.ask l) (q.ask l) := by
  unfold Provider.ask
  rw [← h.record]
  split
  · rw [← h.joined?]
    split
    · exact h.setPhase _
    · rw [← h.calls]
      refine AlikeAt.setPhase ?_ _
      exact { h with calls := rfl, inFlight := by rw [h.coalescing, h.inFlight] }
  · exact h

theorem serveFallback (h : AlikeAt gone c l p q) (u : String) (e : LookupError) :
    AlikeAt gone c l (p.serveFallback l u e) (q.serveFallback l u e) := by
  unfold Provider.serveFallback
  rw [← h.cache, ← h.now]
  split
  · exact AlikeAt.setPhase (p := p.note _ _) (q := q.note _ _) { h with } _
  · exact AlikeAt.setPhase (p := p.note _ _) (q := q.note _ _) { h with } _

theorem receive (h : AlikeAt gone c l p q) : AlikeAt gone c l (p.receive l) (q.receive l) := by
  unfold Provider.receive
  rw [← h.record]
  split
  · rw [← h.callState?]
    split
    · rename_i o _
      cases o with
      | roles roles =>
        unfold take
        rw [← h.now]
        refine AlikeAt.setPhase ?_ _
        exact { h with cache := congrArg (Cache.insert · .primary _) h.cache }
      | failed e => exact h.serveFallback _ e
      | crashed m => exact h.setPhase _
    · exact h
  · exact h

theorem store (h : AlikeAt gone c l p q) : AlikeAt gone c l (p.store l) (q.store l) := by
  unfold Provider.store
  rw [← h.record]
  split
  · refine AlikeAt.setPhase ?_ _
    exact { h with cache := congrArg (Cache.insert · .fallback _) h.cache }
  · exact h

theorem abandon (h : AlikeAt gone c l p q) : AlikeAt gone c l (p.abandon l) (q.abandon l) := by
  unfold Provider.abandon
  rw [← h.record]
  have hq : q.coalescing = true := h.coalescing ▸ h.shared
  split
  · exact h.setPhase _
  · exact h.setPhase _
  · simpa [h.shared, hq] using h.setPhase _
  · exact h

/-- A lookup that is as far in both takes a step. -/
theorem step (h : AlikeAt gone c l p q) (hs : s.lookup? = some l) :
    AlikeAt gone c l (p.step s) (q.step s) := by
  cases s with
  | check j =>
    cases hs
    exact h.check
  | ask j =>
    cases hs
    exact h.ask
  | receive j =>
    cases hs
    exact h.receive
  | store j =>
    cases hs
    exact h.store
  | resume j =>
    cases hs
    exact h.receive.store
  | abandon j =>
    cases hs
    exact h.abandon
  | _ => cases hs

end AlikeAt

/-! ### Until the call has given roles -/

/-- Whether a caller of `gone` gives up in a step. -/
def Step.isFarewell (gone : Nat → Bool) : Step → Bool
  | .abandon l => gone l
  | _ => false

namespace Alike

/-- A lookup only goes on in the second provider. -/
theorem part (h : Alike gone c p q) (hl : gone l = true) {ph ph' : Phase}
    (hp : p.lookups[l]? = some ⟨u, ph⟩) (hq : q.lookups[l]? = some ⟨u, ph'⟩)
    (hphase : phase = .waiting c ∨ phase.IsOver) :
    Alike gone c (p.setPhase l .abandoned) (q.setPhase l phase) :=
  h.setPhase _ _ (.inr ⟨hl, u, phase, by simp [getElem?_setPhase, hp],
    by simp [getElem?_setPhase, hq], hphase⟩)

/-- A lookup that only goes on in the second provider ends there. -/
theorem finish (h : Alike gone c p q) (hl : gone l = true)
    (hp : p.lookups[l]? = some ⟨u, .abandoned⟩) (hq : q.lookups[l]? = some ⟨u, phase⟩)
    (o : Outcome) : Alike gone c p (q.setPhase l (.finished o)) := by
  have hparts : Alike gone c (p.setPhase l .abandoned) (q.setPhase l (.finished o)) :=
    h.part hl hp hq (.inr trivial)
  rwa [setPhase_eq_self hp] at hparts

/-- A lookup that only goes on in the second provider takes a step. -/
theorem step_of_goesOn (h : Alike gone c p q) (hl : gone l = true)
    (hx : GoesOn c p.lookups[l]? q.lookups[l]?) (hs : s.lookup? = some l)
    (stays : s.isFarewell gone = false)
    (early : ∀ roles, q.callState? c ≠ some (.ended (.roles roles))) :
    Alike gone c (p.step s) (q.step s) := by
  obtain ⟨u, phase, hp, hq, rfl | past⟩ := hx
  · rw [step_of_over hp trivial hs]
    have hnote (v : String) (events : List Log.Event) : Alike gone c p (q.note v events) :=
      { h with }
    have f := step_fires q s
    generalize q.step s = q' at f
    cases f with
    | idle => exact h
    | fallBack events hs' | fail events hs' =>
      rcases hs' with rfl | rfl <;> cases hs <;> exact (hnote _ events).finish hl hp hq _
    | crash hs' => rcases hs' with rfl | rfl <;> cases hs <;> exact h.finish hl hp hq _
    -- The call has not given roles, and whoever gives up is not of `gone`.
    | write hl' hc | resume hl' hc =>
      cases hs
      rw [hq] at hl'
      cases hl'
      exact absurd hc (early _)
    | abandon | drop =>
      cases hs
      simp [Step.isFarewell, hl] at stays
    -- The lookup waits.
    | hit _ hl' | miss _ hl' | join hl' | call hl' =>
      cases hs
      rw [hq] at hl'
      cases hl'
    | store hs' hl' =>
      rcases hs' with rfl | rfl <;> cases hs <;> rw [hq] at hl' <;> cases hl'
    | withdraw hs' => rcases hs' with rfl | ⟨o, rfl⟩ <;> cases hs
    | burst hs' | alone hs' => rcases hs' with rfl | rfl <;> cases hs
    | _ => cases hs
  · rw [step_of_over hp trivial hs, step_of_over hq past hs]
    exact h

/-- Both take a step. -/
theorem step (h : Alike gone c p q) (stays : s.isFarewell gone = false)
    (early : ∀ roles, p.callState? c ≠ some (.ended (.roles roles))) :
    Alike gone c (p.step s) (q.step s) := by
  have acts (l : Nat) (hs : s.lookup? = some l) : Alike gone c (p.step s) (q.step s) := by
    rcases h.records l with hl | ⟨hl, hx⟩
    · exact (AlikeAt.step { h with record := hl } hs).toAlike
    · exact h.step_of_goesOn hl hx hs stays (h.callState? c ▸ early)
  cases s with
  | start u => exact h.start u
  | check l | ask l | receive l | store l | resume l | abandon l => exact acts l rfl
  | answer d o => exact h.answer d o
  | withdraw d => exact h.withdraw d
  | finish d o => exact (h.answer d o).withdraw d
  | put u roles =>
    refine { h with cache := ?_ }
    change p.cache.put p.now u roles = q.cache.put q.now u roles
    rw [h.cache, h.now]
  | erase t u => exact { h with cache := congrArg (·.erase t u) h.cache }
  | clear t => exact { h with cache := congrArg (·.clear t) h.cache }
  | invalidate u => exact { h with cache := congrArg (·.invalidate u) h.cache }
  | invalidateAll => exact { h with cache := congrArg (·.invalidateAll) h.cache }
  | advance millis => exact { h with now := congrArg (· + millis) h.now }

/-- A caller who has joined the call gives up in the first. -/
theorem leave (h : Alike gone c p q) (hl : gone l = true)
    (joined : ∀ x ∈ p.lookups[l]?, x.phase.HasJoined c) :
    Alike gone c (p.step (.abandon l)) q := by
  rw [Provider.step]
  unfold Provider.abandon
  split
  · rename_i hp
    exact (joined _ hp).elim
  · rename_i hp
    exact (joined _ hp).elim
  · rename_i u d hp
    obtain rfl : d = c := joined _ hp
    have hq : q.lookups[l]? = some ⟨u, .waiting d⟩ := by
      rcases h.records l with hsame | ⟨-, v, phase, habandoned, -⟩
      · rw [← hsame, hp]
      · rw [hp] at habandoned
        cases habandoned
    simp only [setPhase_coalescing, h.shared, if_true]
    have hparts := h.part hl hp hq (.inl rfl)
    rwa [setPhase_eq_self hq] at hparts
  · exact h

end Alike

/-! ### From then on -/

/-- The call has given the same roles in both, and it is as late in both. -/
structure Over (c : Nat) (p q : Provider) : Prop where
  now : p.now = q.now
  ended : ∃ u roles, p.calls[c]? = some ⟨u, .ended (.roles roles)⟩ ∧
    q.calls[c]? = some ⟨u, .ended (.roles roles)⟩

/-- Only by `advance` it gets later. -/
theorem now_step (hs : ∀ millis, s ≠ .advance millis) : (p.step s).now = p.now := by
  have f := step_fires p s
  generalize p.step s = q at f
  cases f with
  | advance millis => exact absurd rfl (hs millis)
  | _ => rfl

namespace Over

theorem step (h : Over c p q) (s : Step) : Over c (p.step s) (q.step s) where
  now := by
    cases s with
    | advance millis => exact congrArg (· + millis) h.now
    | _ => rw [now_step (by simp), now_step (by simp), h.now]
  ended := by
    obtain ⟨u, roles, hp, hq⟩ := h.ended
    exact ⟨u, roles, calls_step_ended hp s, calls_step_ended hq s⟩

/-- A caller gives up in the first. -/
theorem leave (h : Over c p q) (l : Nat) : Over c (p.step (.abandon l)) q where
  now := (now_step (by simp)).trans h.now
  ended := by
    obtain ⟨u, roles, hp, hq⟩ := h.ended
    exact ⟨u, roles, calls_step_ended hp _, hq⟩

end Over

theorem Over.of_alike (h : Alike gone c p q) {roles : RoleSet}
    (ended : p.callState? c = some (.ended (.roles roles))) : Over c p q := by
  obtain ⟨u, hu⟩ := callState?_eq_some.1 ended
  exact ⟨h.now, u, roles, hu, h.calls ▸ hu⟩

/-! ### One lookup in both -/

/-- A lookup that has joined the call is as far in both. -/
def InStep (c : Nat) (x y : Option Lookup) : Prop :=
  ∃ k : Lookup, x = some k ∧ y = some k ∧ k.phase.HasJoined c

/-- What the next steps of a lookup that waits for a call depend on. -/
structure HearsSame (c : Nat) (p q : Provider) : Prop where
  now : p.now = q.now
  call : p.callState? c = q.callState? c
  cache : ∀ e, p.callState? c = some (.ended (.failed e)) → p.cache = q.cache

theorem Alike.hearsSame (h : Alike gone c p q) : HearsSame c p q :=
  ⟨h.now, h.callState? c, fun _ _ => h.cache⟩

theorem Over.hearsSame (h : Over c p q) : HearsSame c p q := by
  obtain ⟨u, roles, hp, hq⟩ := h.ended
  have hpc := callState?_eq_some.2 ⟨u, hp⟩
  exact ⟨h.now, hpc.trans (callState?_eq_some.2 ⟨u, hq⟩).symm, fun e he => by simp [hpc] at he⟩

/-- What a lookup comes to that takes the outcome of its call. -/
def taken (p : Provider) (u : String) (c : Nat) : Outcome → Phase
  | .roles roles => .storing c ⟨u, roles, p.now⟩
  | .failed e => .finished (((p.cache.getFromFallback? p.now u).map .roles).getD (.failed e))
  | .crashed m => .finished (.crashed m)

theorem lookups_receive (hl : p.lookups[l]? = some ⟨u, .waiting c⟩)
    (hc : p.callState? c = some (.ended o)) :
    (p.receive l).lookups[l]? = some ⟨u, p.taken u c o⟩ := by
  rw [receive_of_ended hl hc]
  cases o with
  | roles roles => simp [take, taken, getElem?_setPhase, hl]
  | failed e =>
    obtain ⟨events, h⟩ := serveFallback_eq p l u e
    simp [take, h, taken, getElem?_setPhase, hl]
  | crashed m => simp [take, taken, getElem?_setPhase, hl]

theorem lookups_store {e : Entry} (hl : p.lookups[l]? = some ⟨u, .storing c e⟩) :
    (p.store l).lookups[l]? = some ⟨u, .finished (.roles e.roles)⟩ := by
  rw [store_of_storing hl]
  simp [getElem?_setPhase, hl]

theorem HearsSame.taken (same : HearsSame c p q) (ho : p.callState? c = some (.ended o))
    (u : String) : p.taken u c o = q.taken u c o := by
  cases o with
  | roles roles => rw [Provider.taken, Provider.taken, same.now]
  | failed e => rw [Provider.taken, Provider.taken, same.now, same.cache e ho]
  | crashed m => rfl

/-- A lookup goes on only in a step of its own. -/
theorem Moves.lookup? {phase' : Phase} (m : Moves p l u s phase phase') : s.lookup? = some l := by
  cases m with
  | store hs | fallBack hs | fail hs | crash hs => rcases hs with rfl | rfl <;> rfl
  | _ => rfl

/-- Only a lookup that has not joined a call reads the cache or asks. -/
theorem Moves.not_joined {phase' : Phase} (m : Moves p l u s phase phase')
    (hs : s = .check l ∨ s = .ask l) : ¬ phase.HasJoined c := by
  cases m with
  | hit | miss | join | call => exact id
  | store hs' | fallBack hs' | fail hs' | crash hs' =>
    rcases hs with rfl | rfl <;> rcases hs' with hs' | hs' <;> cases hs'
  | write | resume | abandon => rcases hs with hs | hs <;> cases hs

namespace InStep

theorem receive (h : InStep c p.lookups[l]? q.lookups[l]?) (same : HearsSame c p q) :
    InStep c (p.receive l).lookups[l]? (q.receive l).lookups[l]? := by
  obtain ⟨⟨u, phase⟩, hp, hq, hj⟩ := h
  by_cases hgo : phase = .waiting c ∧ ∃ o, p.callState? c = some (.ended o)
  · obtain ⟨rfl, o, ho⟩ := hgo
    refine ⟨⟨u, p.taken u c o⟩, lookups_receive hp ho, ?_, ?_⟩
    · rw [same.taken ho]
      exact lookups_receive hq (same.call ▸ ho)
    · cases o with
      | roles => rfl
      | failed | crashed => trivial
  · have stays {r : Provider} (hr : r.lookups[l]? = some ⟨u, phase⟩)
        (hcall : p.callState? c = r.callState? c) : r.receive l = r := by
      apply receive_eq_self
      intro v d o hv hd
      rw [hr] at hv
      cases hv
      obtain rfl : d = c := hj
      exact hgo ⟨rfl, o, hcall.trans hd⟩
    rw [stays hp rfl, stays hq same.call]
    exact ⟨_, hp, hq, hj⟩

theorem store (h : InStep c p.lookups[l]? q.lookups[l]?) :
    InStep c (p.store l).lookups[l]? (q.store l).lookups[l]? := by
  obtain ⟨⟨u, phase⟩, hp, hq, hj⟩ := h
  by_cases hgo : ∃ d e, phase = .storing d e
  · obtain ⟨d, e, rfl⟩ := hgo
    exact ⟨_, lookups_store hp, lookups_store hq, trivial⟩
  · have stays {r : Provider} (hr : r.lookups[l]? = some ⟨u, phase⟩) : r.store l = r := by
      apply store_eq_self
      intro v d e hv
      rw [hr] at hv
      cases hv
      exact hgo ⟨d, e, rfl⟩
    rw [stays hp, stays hq]
    exact ⟨_, hp, hq, hj⟩

theorem abandon (h : InStep c p.lookups[l]? q.lookups[l]?) :
    InStep c (p.step (.abandon l)).lookups[l]? (q.step (.abandon l)).lookups[l]? := by
  obtain ⟨⟨u, phase⟩, hp, hq, hj⟩ := h
  cases phase with
  | started | missed => exact hj.elim
  | waiting d => exact ⟨_, abandon_of_waiting hp, abandon_of_waiting hq, trivial⟩
  | storing | finished | abandoned =>
    simp only [Provider.step, Provider.abandon, hp, hq]
    exact ⟨_, rfl, rfl, hj⟩

/-- A step by which a lookup that has joined a call does not go on. -/
theorem step_of_not (h : InStep c p.lookups[l]? q.lookups[l]?)
    (hs : ∀ (r : Provider) (u : String) (phase phase' : Phase), phase.HasJoined c →
      ¬ Moves r l u s phase phase') :
    InStep c (p.step s).lookups[l]? (q.step s).lookups[l]? := by
  obtain ⟨⟨u, phase⟩, hp, hq, hj⟩ := h
  exact ⟨_, lookups_step_of_not hp fun phase' => hs p u phase phase' hj,
    lookups_step_of_not hq fun phase' => hs q u phase phase' hj, hj⟩

/-- Both take a step. -/
theorem step (h : InStep c p.lookups[l]? q.lookups[l]?) (same : HearsSame c p q) (s : Step) :
    InStep c (p.step s).lookups[l]? (q.step s).lookups[l]? := by
  by_cases hs : s.lookup? = some l
  · cases s with
    | receive j =>
      cases hs
      exact h.receive same
    | store j =>
      cases hs
      exact h.store
    | resume j =>
      cases hs
      exact (h.receive same).store
    | abandon j =>
      cases hs
      exact h.abandon
    -- A lookup that has joined a call has read the cache, and has asked.
    | check j =>
      cases hs
      exact h.step_of_not fun _ _ _ _ hj m => m.not_joined (.inl rfl) hj
    | ask j =>
      cases hs
      exact h.step_of_not fun _ _ _ _ hj m => m.not_joined (.inr rfl) hj
    | _ => cases hs
  · exact h.step_of_not fun _ _ _ _ _ m => hs m.lookup?

/-- The caller of another lookup gives up in the first. -/
theorem leave (h : InStep c p.lookups[l]? q.lookups[l]?) (hk : k ≠ l) :
    InStep c (p.step (.abandon k)).lookups[l]? q.lookups[l]? := by
  obtain ⟨⟨u, phase⟩, hp, hq, hj⟩ := h
  exact ⟨_, lookups_step_of_not hp fun _ m => hk (Option.some.inj m.lookup?), hq, hj⟩

end InStep

end Provider
end RoleLookup
