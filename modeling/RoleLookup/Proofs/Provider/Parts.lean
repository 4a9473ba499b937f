import RoleLookup.Proofs.Provider.Step

/-!
# The parts of the provider in one step

The list of what a step can do, read off for one part of the provider at a time. Invariants are
derived from these statements.

* `Moves`, how a lookup goes on, with `lookups_step` and `lookups_of_step`;
* `Proceeds`, how a call goes on, with `calls_step` and `calls_of_step`;
* `inFlight?_of_step`, where a call in flight comes from;
* `Writes`, what becomes of the cache, with `cache_step` and `find?_of_step`.
-/

namespace RoleLookup
namespace Provider

/-- How a lookup goes on in a step. -/
inductive Moves (p : Provider) (l : Nat) (user : String) : Step → Phase → Phase → Prop
  | hit {roles} (hc : p.cache.get? p.now user = some roles) :
      Moves p l user (.check l) .started (.finished (.roles roles))
  | miss (hc : p.cache.get? p.now user = none) : Moves p l user (.check l) .started .missed
  | join {c} (hj : p.joined? user = some c) : Moves p l user (.ask l) .missed (.waiting c)
  | call (hj : p.joined? user = none) :
      Moves p l user (.ask l) .missed (.waiting p.calls.length)
  | write {c roles} (hc : p.callState? c = some (.ended (.roles roles))) :
      Moves p l user (.receive l) (.waiting c) (.storing c ⟨user, roles, p.now⟩)
  | store {s c e} (hs : s = .store l ∨ s = .resume l) :
      Moves p l user s (.storing c e) (.finished (.roles e.roles))
  | resume {c roles} (hc : p.callState? c = some (.ended (.roles roles))) :
      Moves p l user (.resume l) (.waiting c) (.finished (.roles roles))
  | fallBack {s c e roles} (hs : s = .receive l ∨ s = .resume l)
      (hc : p.callState? c = some (.ended (.failed e)))
      (hf : p.cache.getFromFallback? p.now user = some roles) :
      Moves p l user s (.waiting c) (.finished (.roles roles))
  | fail {s c e} (hs : s = .receive l ∨ s = .resume l)
      (hc : p.callState? c = some (.ended (.failed e)))
      (hf : p.cache.getFromFallback? p.now user = none) :
      Moves p l user s (.waiting c) (.finished (.failed e))
  | crash {s c m} (hs : s = .receive l ∨ s = .resume l)
      (hc : p.callState? c = some (.ended (.crashed m))) :
      Moves p l user s (.waiting c) (.finished (.crashed m))
  | abandon {phase} (hp : phase = .started ∨ phase = .missed ∨ ∃ c, phase = .waiting c) :
      Moves p l user (.abandon l) phase .abandoned

/-- How a call goes on in a step. -/
inductive Proceeds (p : Provider) (c : Nat) : Step → CallState → CallState → Prop
  | answer {o} (h : p.coalescing = true) (ho : o.isCrash = false) :
      Proceeds p c (.answer c o) .running (.answered o)
  | withdraw {s o} (hs : s = .withdraw c ∨ ∃ o', s = .finish c o') :
      Proceeds p c s (.answered o) (.ended o)
  | finish {o} (h : p.coalescing = true) (ho : o.isCrash = false) :
      Proceeds p c (.finish c o) .running (.ended o)
  | burst {s o} (hs : s = .answer c o ∨ s = .finish c o) (h : p.coalescing = true)
      (ho : o.isCrash = true) : Proceeds p c s .running (.ended (reported c o))
  | alone {s o} (hs : s = .answer c o ∨ s = .finish c o) (h : p.coalescing = false) :
      Proceeds p c s .running (.ended o)
  | dropped {l u} (h : p.coalescing = false) (hl : p.lookups[l]? = some ⟨u, .waiting c⟩) :
      Proceeds p c (.abandon l) .running .dropped

/-- What becomes of the cache in a step. -/
inductive Writes (p : Provider) : Step → Cache → Prop
  | keep {s} : Writes p s p.cache
  | primary {l u c roles} (hl : p.lookups[l]? = some ⟨u, .waiting c⟩)
      (hc : p.callState? c = some (.ended (.roles roles))) :
      Writes p (.receive l) (p.cache.insert .primary ⟨u, roles, p.now⟩)
  | fallback {s l u c e} (hs : s = .store l ∨ s = .resume l)
      (hl : p.lookups[l]? = some ⟨u, .storing c e⟩) :
      Writes p s (p.cache.insert .fallback e)
  | both {l u c roles} (hl : p.lookups[l]? = some ⟨u, .waiting c⟩)
      (hc : p.callState? c = some (.ended (.roles roles))) :
      Writes p (.resume l) (p.cache.put p.now u roles)
  | put (u roles) : Writes p (.put u roles) (p.cache.put p.now u roles)
  | erase (t u) : Writes p (.erase t u) (p.cache.erase t u)
  | clear (t) : Writes p (.clear t) (p.cache.clear t)
  | invalidate (u) : Writes p (.invalidate u) (p.cache.invalidate u)
  | invalidateAll : Writes p .invalidateAll p.cache.invalidateAll

variable {p q : Provider} {s : Step} {l c : Nat} {u v : String}

theorem Fires.coalescing (f : Fires p s q) : q.coalescing = p.coalescing := by
  cases f <;> rfl

@[simp] theorem coalescing_step (p : Provider) (s : Step) :
    (p.step s).coalescing = p.coalescing :=
  (step_fires p s).coalescing

@[simp] theorem coalescing_run (p : Provider) (ss : List Step) :
    (p.run ss).coalescing = p.coalescing :=
  run_induction (P := fun q => q.coalescing = p.coalescing)
    (fun q s _ h => (coalescing_step q s).trans h) rfl

section Lookups

variable {k : Nat} {phase phase' : Phase}

/-- A lookup put into another phase, seen from any lookup. -/
theorem moves_setPhase (hq : q.lookups = p.lookups) (hl : p.lookups[l]? = some ⟨u, phase⟩)
    (m : Moves p l u s phase phase') {ph : Phase} (hk : p.lookups[k]? = some ⟨v, ph⟩) :
    ∃ ph', (q.setPhase l phase').lookups[k]? = some ⟨v, ph'⟩ ∧
      (ph' = ph ∨ Moves p k v s ph ph') := by
  by_cases h : l = k
  · subst h
    rw [hl] at hk
    cases hk
    exact ⟨phase', by simp [getElem?_setPhase, hq, hl], .inr m⟩
  · exact ⟨ph, by simp [getElem?_setPhase, hq, hk, h], .inl rfl⟩

theorem Fires.lookups (f : Fires p s q) (hk : p.lookups[k]? = some ⟨v, phase⟩) :
    ∃ ph, q.lookups[k]? = some ⟨v, ph⟩ ∧ (ph = phase ∨ Moves p k v s phase ph) := by
  have same {q : Provider} (hq : q.lookups = p.lookups) :
      ∃ ph, q.lookups[k]? = some ⟨v, ph⟩ ∧ (ph = phase ∨ Moves p k v s phase ph) :=
    ⟨phase, by rw [hq, hk], .inl rfl⟩
  cases f with
  | idle => exact same rfl
  | start w =>
    have hlt : k < p.lookups.length := (List.getElem?_eq_some_iff.1 hk).1
    exact ⟨phase, by rw [List.getElem?_append_left hlt, hk], .inl rfl⟩
  | hit _ hl hc => exact moves_setPhase rfl hl (.hit hc) hk
  | miss _ hl hc => exact moves_setPhase rfl hl (.miss hc) hk
  | join hl hj => exact moves_setPhase rfl hl (.join hj) hk
  | call hl hj => exact moves_setPhase rfl hl (.call hj) hk
  | answer | withdraw | finish | burst | alone => exact same rfl
  | write hl hc => exact moves_setPhase rfl hl (.write hc) hk
  | store hs hl => exact moves_setPhase rfl hl (.store hs) hk
  | resume hl hc => exact moves_setPhase rfl hl (.resume hc) hk
  | fallBack _ hs hl hc hf => exact moves_setPhase rfl hl (.fallBack hs hc hf) hk
  | fail _ hs hl hc hf => exact moves_setPhase rfl hl (.fail hs hc hf) hk
  | crash hs hl hc => exact moves_setPhase rfl hl (.crash hs hc) hk
  | abandon hl hp => exact moves_setPhase rfl hl (.abandon hp) hk
  | @drop l u c hl _ _ =>
    rw [setCall_lookups]
    exact moves_setPhase rfl hl (.abandon (.inr (.inr ⟨c, rfl⟩))) hk
  | put | erase | clear | invalidate | invalidateAll | advance => exact same rfl

theorem Fires.lookups_new {x : Lookup} (f : Fires p s q) (hk : p.lookups[k]? = none)
    (hx : q.lookups[k]? = some x) :
    s = .start x.user ∧ x.phase = .started ∧ k = p.lookups.length := by
  cases f with
  | start w =>
    have hle : p.lookups.length ≤ k := List.getElem?_eq_none_iff.1 hk
    rw [List.getElem?_append_right hle, List.getElem?_singleton] at hx
    split at hx
    · cases hx
      exact ⟨rfl, rfl, by omega⟩
    · cases hx
  | _ => simp [getElem?_setPhase, hk] at hx

/-- A lookup stays, with its user. -/
theorem lookups_step (hk : p.lookups[k]? = some ⟨v, phase⟩) (s : Step) :
    ∃ ph, (p.step s).lookups[k]? = some ⟨v, ph⟩ ∧ (ph = phase ∨ Moves p k v s phase ph) :=
  (step_fires p s).lookups hk

/-- A lookup was there before, in the same phase or in one from which it has moved, or has just
started. -/
theorem lookups_of_step (hk : (p.step s).lookups[k]? = some ⟨v, phase⟩) :
    (∃ ph, p.lookups[k]? = some ⟨v, ph⟩ ∧ (phase = ph ∨ Moves p k v s ph phase)) ∨
      (s = .start v ∧ phase = .started ∧ k = p.lookups.length) := by
  cases hp : p.lookups[k]? with
  | none => exact .inr ((step_fires p s).lookups_new hp hk)
  | some x =>
    obtain ⟨ph, hph, m⟩ := lookups_step hp s
    rw [hk] at hph
    cases hph
    exact .inl ⟨x.phase, rfl, m⟩

theorem lookups_run (hk : p.lookups[k]? = some ⟨v, phase⟩) (ss : List Step) :
    ∃ ph, (p.run ss).lookups[k]? = some ⟨v, ph⟩ :=
  run_induction (P := fun q => ∃ ph, q.lookups[k]? = some ⟨v, ph⟩)
    (fun _ s _ ⟨_, hk⟩ => by
      obtain ⟨ph, hph, -⟩ := lookups_step hk s
      exact ⟨ph, hph⟩) ⟨phase, hk⟩

end Lookups

section Calls

variable {state : CallState}

/-- A call put into another state, seen from any call. -/
theorem proceeds_setCall {k : Nat} {new old st : CallState} (hq : q.calls = p.calls)
    (hc : p.calls[c]? = some ⟨u, st⟩) (e : Proceeds p c s st new)
    (hk : p.calls[k]? = some ⟨v, old⟩) :
    ∃ st', (q.setCall c new).calls[k]? = some ⟨v, st'⟩ ∧ (st' = old ∨ Proceeds p k s old st') := by
  by_cases h : c = k
  · subst h
    rw [hk] at hc
    cases hc
    exact ⟨new, by simp [getElem?_setCall, hq, hk], .inr e⟩
  · exact ⟨old, by simp [getElem?_setCall, hq, hk, h], .inl rfl⟩

theorem Fires.calls (f : Fires p s q) (hk : p.calls[c]? = some ⟨v, state⟩) :
    ∃ st, q.calls[c]? = some ⟨v, st⟩ ∧ (st = state ∨ Proceeds p c s state st) := by
  cases f with
  | call hl hj =>
    have hlt : c < p.calls.length := (List.getElem?_eq_some_iff.1 hk).1
    exact ⟨state, by rw [setPhase_calls, List.getElem?_append_left hlt, hk], .inl rfl⟩
  | answer hc shared ho => exact proceeds_setCall rfl hc (.answer shared ho) hk
  | withdraw hs hc => exact proceeds_setCall (q := p) rfl hc (.withdraw hs) hk
  | finish hc shared ho => exact proceeds_setCall (q := p) rfl hc (.finish shared ho) hk
  | burst hs hc shared ho => exact proceeds_setCall rfl hc (.burst hs shared ho) hk
  | alone hs hc alone => exact proceeds_setCall rfl hc (.alone hs alone) hk
  | drop hl alone hc =>
    obtain ⟨u, hu⟩ := callState?_eq_some.1 hc
    exact proceeds_setCall rfl hu (.dropped alone hl) hk
  | _ => exact ⟨state, hk, .inl rfl⟩

theorem Fires.calls_new {x : Call} (f : Fires p s q) (hk : p.calls[c]? = none)
    (hx : q.calls[c]? = some x) :
    c = p.calls.length ∧ x.state = .running ∧
      ∃ l, s = .ask l ∧ p.lookups[l]? = some ⟨x.user, .missed⟩ ∧ p.joined? x.user = none := by
  cases f with
  | @call l u hl hj =>
    have hle : p.calls.length ≤ c := List.getElem?_eq_none_iff.1 hk
    rw [setPhase_calls, List.getElem?_append_right hle, List.getElem?_singleton] at hx
    split at hx
    · cases hx
      exact ⟨by omega, rfl, l, rfl, hl, hj⟩
    · cases hx
  | _ => simp [getElem?_setCall, hk] at hx

/-- A call stays, with its user. -/
theorem calls_step (hk : p.calls[c]? = some ⟨v, state⟩) (s : Step) :
    ∃ st, (p.step s).calls[c]? = some ⟨v, st⟩ ∧ (st = state ∨ Proceeds p c s state st) :=
  (step_fires p s).calls hk

/-- A call was there before, or has just been made for a lookup that found none to join. -/
theorem calls_of_step (hk : (p.step s).calls[c]? = some ⟨v, state⟩) :
    (∃ st, p.calls[c]? = some ⟨v, st⟩ ∧ (state = st ∨ Proceeds p c s st state)) ∨
      (c = p.calls.length ∧ state = .running ∧
        ∃ l, s = .ask l ∧ p.lookups[l]? = some ⟨v, .missed⟩ ∧ p.joined? v = none) := by
  cases hp : p.calls[c]? with
  | none => exact .inr ((step_fires p s).calls_new hp hk)
  | some x =>
    obtain ⟨st, hst, e⟩ := calls_step hp s
    rw [hk] at hst
    cases hst
    exact .inl ⟨x.state, rfl, e⟩

end Calls

section InFlight

/-- The directory has not answered yet, or those who wait do not see the answer yet. -/
def CallState.IsOpen : CallState → Prop
  | .running | .answered _ => True
  | _ => False

theorem inFlight?_cons {w : String} (hw : q.inFlight = (w, c) :: p.inFlight) (u : String) :
    q.inFlight? u = if w = u then some c else p.inFlight? u := by
  unfold inFlight?
  rw [hw, find?_cons_key Prod.fst]
  split <;> rfl

theorem inFlight?_filter {w : String} (hw : q.inFlight = p.inFlight.filter (·.1 != w))
    (u : String) : q.inFlight? u = if w = u then none else p.inFlight? u := by
  unfold inFlight?
  rw [hw, find?_filter_key_ne Prod.fst]
  split <;> rfl

/-- The calls in flight stay, or one that has just been made is added, or one that has just ended
is taken out. -/
theorem Fires.inFlight (f : Fires p s q) :
    q.inFlight = p.inFlight ∨
      (∃ l u, s = .ask l ∧ p.lookups[l]? = some ⟨u, .missed⟩ ∧ p.joined? u = none ∧
        p.coalescing = true ∧ q.inFlight = (u, p.calls.length) :: p.inFlight) ∨
      ∃ (c : Nat) (u : String) (st : CallState) (o : Outcome), p.calls[c]? = some ⟨u, st⟩ ∧
        st.IsOpen ∧ q.calls[c]? = some ⟨u, .ended o⟩ ∧
        q.inFlight = p.inFlight.filter (·.1 != u) := by
  cases f with
  | @call l u hl hj =>
    by_cases hs : p.coalescing = true
    · exact .inr (.inl ⟨l, u, rfl, hl, hj, hs, by simp [hs]⟩)
    · exact .inl (by simp [hs])
  | @withdraw _ c u o hs hc =>
    exact .inr (.inr ⟨c, u, _, o, hc, trivial, by simp [setCall, hc], rfl⟩)
  | @finish c u o hc shared ho =>
    exact .inr (.inr ⟨c, u, _, o, hc, trivial, by simp [setCall, hc], rfl⟩)
  | _ => exact .inl rfl

/-- A call in flight was so before, or has just been made. -/
theorem inFlight?_of_step (h : (p.step s).inFlight? u = some c) :
    p.inFlight? u = some c ∨
      (c = p.calls.length ∧ p.coalescing = true ∧
        ∃ l, s = .ask l ∧ p.lookups[l]? = some ⟨u, .missed⟩ ∧ p.joined? u = none) := by
  rcases (step_fires p s).inFlight with hq | ⟨l, w, hs, hl, hj, shared, hq⟩ |
    ⟨d, w, st, o, -, -, -, hq⟩
  · left
    rwa [Provider.inFlight?, hq] at h
  · rw [inFlight?_cons hq] at h
    split at h
    · rename_i hw
      subst hw
      cases h
      exact .inr ⟨rfl, shared, l, hs, hl, hj⟩
    · exact .inl h
  · rw [inFlight?_filter hq] at h
    split at h
    · cases h
    · exact .inl h

/-- A call in flight stays so, unless a call of its user ends. -/
theorem inFlight?_step (h : p.inFlight? u = some c) (s : Step) :
    (p.step s).inFlight? u = some c ∨
      ∃ (d : Nat) (st : CallState) (o : Outcome), p.calls[d]? = some ⟨u, st⟩ ∧ st.IsOpen ∧
        (p.step s).calls[d]? = some ⟨u, .ended o⟩ := by
  rcases (step_fires p s).inFlight with hq | ⟨l, w, -, -, hj, shared, hq⟩ |
    ⟨d, w, st, o, hc, hopen, hend, hq⟩
  · left
    rwa [Provider.inFlight?, hq]
  · left
    have hw : w ≠ u := by
      rintro rfl
      simp [joined?, shared, h] at hj
    rw [inFlight?_cons hq, if_neg hw, h]
  · by_cases hw : w = u
    · subst hw
      exact .inr ⟨d, st, o, hc, hopen, hend⟩
    · left
      rw [inFlight?_filter hq, if_neg hw, h]

/-- A lookup that finds no call to join makes one. -/
theorem made_step (hl : p.lookups[l]? = some ⟨u, .missed⟩) (hj : p.joined? u = none) :
    (p.step (.ask l)).calls[p.calls.length]? = some ⟨u, .running⟩ ∧
      (p.coalescing = true → (p.step (.ask l)).inFlight? u = some p.calls.length) := by
  rw [step, ask_of_not_joined hl hj]
  refine ⟨by simp, ?_⟩
  intro shared
  rw [inFlight?_cons (p := p) (w := u) (c := p.calls.length) (by simp [shared]), if_pos rfl]

end InFlight

section Regions

/-- A step by which an invalidation that concerns a user reaches a region. -/
def Step.Forgets (s : Step) (t : Tier) (user : String) : Prop :=
  match s with
  | .erase t' u => t' = t ∧ u = user
  | .clear t' => t' = t
  | .invalidate u => u = user
  | .invalidateAll => True
  | _ => False

instance (s : Step) (t : Tier) (user : String) : Decidable (s.Forgets t user) :=
  match s with
  | .erase t' u => inferInstanceAs (Decidable (t' = t ∧ u = user))
  | .clear t' => inferInstanceAs (Decidable (t' = t))
  | .invalidate u => inferInstanceAs (Decidable (u = user))
  | .invalidateAll => .isTrue trivial
  | .start _ | .check _ | .ask _ | .answer _ _ | .withdraw _ | .finish _ _ | .receive _ | .store _
  | .resume _ | .abandon _ | .put _ _ | .advance _ => .isFalse id

theorem Fires.cache (f : Fires p s q) : Writes p s q.cache := by
  cases f with
  | write hl hc => exact .primary hl hc
  | store hs hl => exact .fallback hs hl
  | resume hl hc => exact .both hl hc
  | put u roles => exact .put u roles
  | erase t u => exact .erase t u
  | clear t => exact .clear t
  | invalidate u => exact .invalidate u
  | invalidateAll => exact .invalidateAll
  | _ => exact .keep

theorem cache_step (p : Provider) (s : Step) : Writes p s (p.step s).cache :=
  (step_fires p s).cache

@[simp] theorem lifetime_step (p : Provider) (s : Step) (t : Tier) :
    ((p.step s).cache.region t).lifetime = (p.cache.region t).lifetime := by
  have w := cache_step p s
  generalize (p.step s).cache = c' at w
  cases w <;> simp [apply_ite Region.lifetime]

theorem find?_of_forgets {t : Tier} (h : s.Forgets t u) :
    ((p.step s).cache.region t).find? u = none := by
  cases s with
  | erase t' u' =>
    obtain ⟨rfl, rfl⟩ := h
    simp [step]
  | clear t' =>
    obtain rfl : t' = t := h
    simp [step]
  | invalidate u' =>
    obtain rfl : u' = u := h
    simp [step]
  | invalidateAll => simp [step]
  | _ => exact h.elim

/-- Whether a step puts roles of a user into the cache on its own. -/
def Step.puts (user : String) : Step → Bool
  | .put u _ => u == user
  | _ => false

/-- Only lookups that go on, and steps that put roles, bring an entry into a region. -/
theorem find?_of_step {t : Tier} {e : Entry}
    (h : ((p.step s).cache.region t).find? u = some e)
    (idle : ∀ l, s ≠ .receive l ∧ s ≠ .store l ∧ s ≠ .resume l) (unput : s.puts u = false) :
    (p.cache.region t).find? u = some e := by
  have w := cache_step p s
  generalize (p.step s).cache = c' at w h
  cases w with
  | keep => exact h
  | @primary l => exact absurd rfl (idle l).1
  | @fallback _ l _ _ _ hs =>
    rcases hs with rfl | rfl
    · exact absurd rfl (idle l).2.1
    · exact absurd rfl (idle l).2.2
  | @both l => exact absurd rfl (idle l).2.2
  | put v roles =>
    rw [Cache.region_put] at h
    rcases Region.find?_insert_cases h with ⟨hv, -⟩ | ⟨-, h⟩
    · simp [Step.puts] at unput
      exact absurd hv unput
    · exact h
  | erase t' v =>
    rw [Cache.region_erase] at h
    split at h
    · rw [Region.find?_erase] at h
      split at h
      · cases h
      · exact h
    · exact h
  | clear t' =>
    rw [Cache.region_clear] at h
    split at h
    · cases h
    · exact h
  | invalidate v =>
    rw [Cache.region_invalidate, Region.find?_erase] at h
    split at h
    · cases h
    · exact h
  | invalidateAll =>
    rw [Cache.region_invalidateAll] at h
    cases h

end Regions

end Provider
end RoleLookup
