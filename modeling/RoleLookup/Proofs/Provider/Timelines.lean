import RoleLookup.Proofs.Provider.Parts
import RoleLookup.Provider.Timeline

/-!
# Timelines are runs

A timeline decides when the steps of its provider are taken, and adds nothing to what they do. So
what is proved of every run holds of every timeline.

* `unlogged`, a provider without its log, and `LogFree`, what does not depend on it, with
  `logFree_step`;
* `Reaches`, a run leads from one provider to another, up to what they have logged;
* `Timeline.Ran`, what every part of a timeline keeps: its provider has been reached, and what has
  been reported of the lookups of its events is how they have ended;
* `Timeline.play_is_run`.
-/

namespace RoleLookup

namespace Provider

variable {p q : Provider} {f g : Provider → Provider} {l : Nat} {user : String} {o : Outcome}

/-! ### Steps and the log -/

/-- The provider without its log. -/
def unlogged (p : Provider) : Provider := { p with log := [] }

@[simp] theorem unlogged_coalescing (p : Provider) : p.unlogged.coalescing = p.coalescing := rfl

@[simp] theorem unlogged_cache (p : Provider) : p.unlogged.cache = p.cache := rfl

@[simp] theorem unlogged_now (p : Provider) : p.unlogged.now = p.now := rfl

@[simp] theorem unlogged_calls (p : Provider) : p.unlogged.calls = p.calls := rfl

@[simp] theorem unlogged_lookups (p : Provider) : p.unlogged.lookups = p.lookups := rfl

@[simp] theorem unlogged_joined? (p : Provider) (user : String) :
    p.unlogged.joined? user = p.joined? user := rfl

@[simp] theorem unlogged_callState? (p : Provider) (c : Nat) :
    p.unlogged.callState? c = p.callState? c := rfl

/-- What is done to a provider does not depend on what it has logged. -/
def LogFree (f : Provider → Provider) : Prop := ∀ p, (f p.unlogged).unlogged = (f p).unlogged

theorem LogFree.comp (hf : LogFree f) (hg : LogFree g) : LogFree fun p => g (f p) := by
  intro p
  rw [← hg, hf, hg]

theorem logFree_check (l : Nat) : LogFree (·.check l) := by
  intro p
  simp only [check, unlogged_lookups, unlogged_cache, unlogged_now]
  split
  · split <;> rfl
  · rfl

theorem logFree_ask (l : Nat) : LogFree (·.ask l) := by
  intro p
  simp only [ask, unlogged_lookups, unlogged_joined?]
  split
  · split <;> rfl
  · rfl

theorem logFree_answer (c : Nat) (o : Outcome) : LogFree (·.answer c o) := by
  intro p
  simp only [answer, unlogged_calls]
  split
  · cases hshared : p.coalescing with
    | true => simp only [unlogged_coalescing, hshared, if_true]; rfl
    | false => simp only [unlogged_coalescing, hshared, Bool.false_eq_true, if_false]; rfl
  · rfl

theorem logFree_withdraw (c : Nat) : LogFree (·.withdraw c) := by
  intro p
  simp only [withdraw, unlogged_calls]
  split <;> rfl

theorem logFree_receive (l : Nat) : LogFree (·.receive l) := by
  intro p
  simp only [receive, unlogged_lookups, unlogged_callState?]
  split
  · split
    · rename_i o _
      cases o with
      | roles | crashed => rfl
      | failed e =>
        simp only [take, serveFallback, unlogged_cache, unlogged_now]
        split <;> rfl
    · rfl
  · rfl

theorem logFree_store (l : Nat) : LogFree (·.store l) := by
  intro p
  simp only [store, unlogged_lookups]
  split <;> rfl

theorem logFree_abandon (l : Nat) : LogFree (·.abandon l) := by
  intro p
  simp only [abandon, unlogged_lookups]
  split
  · rfl
  · rfl
  · cases hshared : p.coalescing with
    | true => simp only [setPhase_coalescing, unlogged_coalescing, hshared, if_true]; rfl
    | false =>
      simp only [setPhase_coalescing, callState?, setPhase_calls, unlogged_coalescing,
        unlogged_calls, hshared, Bool.false_eq_true, if_false]
      split <;> rfl
  · rfl

/-- No step depends on what has been logged. -/
theorem logFree_step (s : Step) : LogFree (·.step s) := by
  cases s with
  | check l => exact logFree_check l
  | ask l => exact logFree_ask l
  | answer c o => exact logFree_answer c o
  | withdraw c => exact logFree_withdraw c
  | finish c o => exact (logFree_answer c o).comp (logFree_withdraw c)
  | receive l => exact logFree_receive l
  | store l => exact logFree_store l
  | resume l => exact (logFree_receive l).comp (logFree_store l)
  | abandon l => exact logFree_abandon l
  | _ => exact fun _ => rfl

/-- Some steps lead from one provider to another, up to what they have logged. -/
def Reaches (p q : Provider) : Prop := ∃ ss, q.unlogged = (p.run ss).unlogged

namespace Reaches

theorem refl (p : Provider) : p.Reaches p := ⟨[], rfl⟩

theorem of_unlogged {r : Provider} (h : p.Reaches q) (hr : r.unlogged = q.unlogged) :
    p.Reaches r := by
  obtain ⟨ss, hss⟩ := h
  exact ⟨ss, hr.trans hss⟩

theorem step (h : p.Reaches q) (s : Step) : p.Reaches (q.step s) := by
  obtain ⟨ss, hss⟩ := h
  refine ⟨ss ++ [s], ?_⟩
  rw [run_append, run_cons, run_nil, ← logFree_step s q, hss, logFree_step s]

end Reaches

/-- A lookup that has ended stays as it is. -/
theorem finished_step (h : p.lookups[l]? = some ⟨user, .finished o⟩) (s : Step) :
    (p.step s).lookups[l]? = some ⟨user, .finished o⟩ := by
  obtain ⟨phase, hphase, rfl | m⟩ := lookups_step h s
  · exact hphase
  · cases m with
    | abandon hp =>
      rcases hp with hp | hp | ⟨c, hp⟩ <;> cases hp

end Provider

namespace Timeline

open Provider

variable {p q : Provider} {asked : List Event} {l n : Nat}

/-- A lookup is that of one of the events, and it is in the given phase. -/
def Serves (asked : List Event) (p : Provider) (l n : Nat) (phase : Phase) : Prop :=
  ∃ user patience, asked[n]? = some (.lookup user patience) ∧ p.lookups[l]? = some ⟨user, phase⟩

/-- What every part of a timeline keeps, between the provider with which the timeline began and the
events that have been asked for. -/
structure Ran (asked : List Event) (p : Provider) (t : Timeline) : Prop where
  reaches : p.Reaches t.provider
  /-- The agenda knows the events by their numbers. -/
  due : ∀ e ∈ t.agenda, ∀ n event, e.action = .event n event → asked[n]? = some event
  /-- The lookups that go on are those of their events. -/
  pending : ∀ x ∈ t.pending, ∃ phase, Serves asked t.provider x.1 x.2 phase
  /-- The outcomes that have been reported are those of the lookups. -/
  told : ∀ r ∈ t.reports, ∀ o, r.result = .lookedUp o →
    ∃ l, Serves asked t.provider l r.event (.finished o)

namespace Ran

variable {t : Timeline}

theorem take (h : Ran asked p t) (s : Step) : Ran asked p (t.take s) where
  reaches := h.reaches.step s
  due := h.due
  pending x hx := by
    obtain ⟨_, user, patience, hn, hl⟩ := h.pending x hx
    obtain ⟨phase, hphase, -⟩ := lookups_step hl s
    exact ⟨phase, user, patience, hn, hphase⟩
  told r hr o ho := by
    obtain ⟨l, user, patience, hn, hl⟩ := h.told r hr o ho
    exact ⟨l, user, patience, hn, finished_step hl s⟩

theorem takeAll (h : Ran asked p t) (ss : List Step) :
    Ran asked p { t with provider := t.provider.run ss } := by
  induction ss generalizing t with
  | nil => exact h
  | cons s ss ih => exact ih (h.take s)

/-- A result that is reported of a lookup is how a lookup of that event has ended. -/
theorem report (h : Ran asked p t) (n : Nat) (result : Result)
    (ended : ∀ o, result = .lookedUp o → ∃ l, Serves asked t.provider l n (.finished o)) :
    Ran asked p (t.report n result) where
  reaches := h.reaches
  due := h.due
  pending := h.pending
  told r hr o ho := by
    rcases List.mem_append.1 hr with hr | hr
    · exact h.told r hr o ho
    · obtain rfl := List.mem_singleton.1 hr
      exact ended o ho

theorem conclude (h : Ran asked p t) (l : Nat) {result : Result}
    (ended : ∀ o, result = .lookedUp o → t.provider.outcome? l = some o) :
    Ran asked p (t.conclude l result) := by
  unfold Timeline.conclude
  split
  · rename_i l' n hfind
    obtain rfl : l' = l := by simpa using List.find?_some hfind
    obtain ⟨_, user, patience, hn, hl⟩ := h.pending _ (List.mem_of_find?_eq_some hfind)
    have hrest : Ran asked p { t with pending := t.pending.filter (·.1 != l') } :=
      ⟨h.reaches, h.due, fun x hx => h.pending x (List.mem_filter.1 hx).1, h.told⟩
    refine hrest.report n _ fun o ho => ⟨l', user, patience, hn, ?_⟩
    obtain ⟨_, hl'⟩ := outcome?_eq_some.1 (ended o ho)
    rw [hl] at hl'
    cases hl'
    exact hl
  · exact h

theorem concludeIfOver (h : Ran asked p t) (l : Nat) : Ran asked p (t.concludeIfOver l) := by
  unfold Timeline.concludeIfOver
  split
  · rename_i outcome hover
    refine h.conclude l ?_
    rintro o ⟨⟩
    exact hover
  · exact h

/-- Lookups whose call has ended go on. -/
theorem resumeAll (h : Ran asked p t) (waiters : List Nat) :
    Ran asked p (waiters.foldl (fun t l => (t.take (.resume l)).concludeIfOver l) t) := by
  induction waiters generalizing t with
  | nil => exact h
  | cons l waiters ih => exact ih ((h.take (.resume l)).concludeIfOver l)

theorem finishCall (h : Ran asked p t) (call : Nat) (outcome : Outcome) :
    Ran asked p (t.finishCall call outcome) :=
  (h.take (.finish call outcome)).resumeAll _

theorem schedule (h : Ran asked p t) (delay : Nat) {action : Action}
    (known : ∀ n event, action = .event n event → asked[n]? = some event) :
    Ran asked p (t.schedule delay action) where
  reaches := h.reaches
  due e he := by
    rcases List.mem_append.1 he with he | he
    · exact h.due e he
    · obtain rfl := List.mem_singleton.1 he
      exact known
  pending := h.pending
  told := h.told

theorem startLookup (h : Ran asked p t) {n : Nat} {user : String} {patience : Option Nat}
    (hn : asked[n]? = some (.lookup user patience)) :
    Ran asked p (t.startLookup n user patience) := by
  unfold Timeline.startLookup
  extract_lets l known started giveUp
  have waits {u : Timeline} (hu : Ran asked p u) : Ran asked p (giveUp u) := by
    simp only [giveUp]
    split
    · exact hu.schedule _ (by simp)
    · exact hu
  have launched : Ran asked p started := by
    have h := h.takeAll [.start user, .check l, .ask l]
    refine ⟨h.reaches, h.due, fun x hx => ?_, h.told⟩
    rcases List.mem_append.1 hx with hx | hx
    · exact h.pending x hx
    · obtain rfl := List.mem_singleton.1 hx
      have hnew : (t.provider.step (.start user)).lookups[l]? = some ⟨user, .started⟩ := by
        simp [Provider.step, l]
      obtain ⟨phase, hphase⟩ := lookups_run hnew [.check l, .ask l]
      exact ⟨phase, user, patience, hn, hphase⟩
  split
  · exact launched.concludeIfOver _
  · split
    · split
      · exact waits launched
      · exact (launched.take _).concludeIfOver _
    · split
      · exact launched.finishCall _ _
      · exact waits (launched.schedule _ (by simp))
      · exact (waits launched).schedule _ (by simp)

/-- Whatever is due happens. -/
theorem act (h : Ran asked p t) {action : Action}
    (known : ∀ n event, action = .event n event → asked[n]? = some event) :
    Ran asked p (t.act action) := by
  cases action with
  | event n event =>
    cases event with
    | lookup user patience => exact h.startLookup (known n _ rfl)
    | put | invalidate | invalidateAll => exact (h.take _).report n _ nofun
    | get user => exact h.report n _ nofun
    | fallback user =>
      -- The entry that was seen is logged.
      refine Ran.report ?_ n (.roles _) nofun
      exact ⟨h.reaches.of_unlogged rfl, h.due, h.pending, h.told⟩
  | finish call outcome => exact h.finishCall call outcome
  | giveUp l =>
    simp only [Timeline.act]
    split
    · exact (h.take _).conclude l nofun
    · exact h

end Ran

/-- What is due next stood on the agenda, and nothing else leaves it. -/
theorem mem_of_next? {agenda rest : List Entry} {e : Entry} (h : next? agenda = some (e, rest)) :
    e ∈ agenda ∧ ∀ x ∈ rest, x ∈ agenda := by
  induction agenda generalizing e rest with
  | nil => cases h
  | cons a agenda ih =>
    unfold next? at h
    split at h
    · rename_i hnext
      obtain ⟨hmem, hrest⟩ := ih hnext
      split at h
      · cases h
        exact ⟨List.mem_cons_of_mem _ hmem, fun x hx =>
          (List.mem_cons.1 hx).elim (· ▸ List.mem_cons_self) (List.mem_cons_of_mem _ <| hrest x ·)⟩
      · cases h
        exact ⟨List.mem_cons_self, fun x hx => List.mem_cons_of_mem _ hx⟩
    · cases h
      exact ⟨List.mem_cons_self, nofun⟩

namespace Ran

variable {t : Timeline}

theorem settle (h : Ran asked p t) (fuel : Nat) : Ran asked p (t.settle fuel) := by
  induction fuel generalizing t with
  | zero => exact h
  | succ fuel ih =>
    unfold Timeline.settle
    split
    · exact h
    · split
      · exact h
      · rename_i e agenda hnext
        obtain ⟨he, hrest⟩ := mem_of_next? hnext
        have hmoved : Ran asked p { t with agenda, clock := max t.clock e.time } :=
          ⟨h.reaches, fun x hx => h.due x (hrest x hx), h.pending, h.told⟩
        exact ih (hmoved.act (h.due e he))

theorem play (ht : t.isSettled = true) (events : List (Nat × Event)) :
    Ran (events.map (·.2)) t.provider (t.play events) := by
  obtain ⟨hpending, hagenda⟩ : t.pending = [] ∧ ∀ e ∈ t.agenda, e.isEvent = false := by
    simpa [isSettled] using ht
  have begun : Ran (events.map (·.2)) t.provider { t with
      agenda := t.agenda ++ events.zipIdx.map fun x => ⟨t.clock + x.1.1, .event x.2 x.1.2⟩
      reports := [] } := by
    refine ⟨.refl _, fun e he n event hevent => ?_, by simp [hpending], nofun⟩
    rcases List.mem_append.1 he with he | he
    · have := hagenda e he
      simp [Entry.isEvent, hevent] at this
    · obtain ⟨⟨⟨delay, event'⟩, n'⟩, hmem, rfl⟩ := List.mem_map.1 he
      cases hevent
      simp [List.mem_zipIdx_iff_getElem?.1 hmem]
  have settled (fuel : Nat) := begun.settle fuel
  refine ⟨(settled _).reaches, (settled _).due, (settled _).pending, fun r hr o ho => ?_⟩
  obtain ⟨r', hr', rfl⟩ := List.mem_map.1 hr
  exact (settled _).told r' hr' o ho

end Ran

/-- **Timelines are runs.** What the events of a timeline do to its provider is what some steps do,
up to what is logged, and the outcome that is reported of an event is that of its own lookup in
this run. -/
theorem play_is_run (t : Timeline) (ht : t.isSettled = true) (events : List (Nat × Event)) :
    ∃ ss, (t.play events).provider.unlogged = (t.provider.run ss).unlogged ∧
      ∀ r ∈ (t.play events).reports, ∀ o, r.result = .lookedUp o →
        ∃ l, Serves (events.map (·.2)) (t.provider.run ss) l r.event (.finished o) := by
  have ran := Ran.play ht events
  obtain ⟨ss, hss⟩ := ran.reaches
  refine ⟨ss, hss, fun r hr o ho => ?_⟩
  obtain ⟨l, user, patience, hn, hl⟩ := ran.told r hr o ho
  have hsame : (t.play events).provider.unlogged.lookups = (t.provider.run ss).unlogged.lookups :=
    congrArg Provider.lookups hss
  exact ⟨l, user, patience, hn, hsame ▸ hl⟩

end Timeline
end RoleLookup
