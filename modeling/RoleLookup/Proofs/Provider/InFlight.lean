import Mathlib.Data.List.Induction
import RoleLookup.Proofs.Provider.SingleFlight

/-!
# What stays in flight

A shared call is in flight from the moment at which it is made until it leaves the calls in flight.
One that gives roles or fails leaves them when it ends, so that the next lookup that misses makes a
call of its own. One that crashes never leaves them.

* `inFlight?_of_withdrawn`, `inFlight?_of_finished`, a call that ends is in flight no longer;
* `inFlight?_of_crash`, a call that crashes stays in flight;
* `open_or_crashed`, `inFlight?_of_crashed`, the calls in flight of every run;
* `inFlight_iff_open_or_crashed`, and `stuck_after_crash`, a run after which a user is stuck.
-/

namespace RoleLookup
namespace Provider

variable {p : Provider} {s : Step} {ss : List Step} {l c : Nat} {u : String} {o : Outcome}

/-! ### Calls that end -/

theorem inFlight?_of_withdrawn (hc : p.calls[c]? = some ⟨u, .answered o⟩)
    (hs : s = .withdraw c ∨ ∃ o', s = .finish c o') : (p.step s).inFlight? u = none := by
  have hstep : p.step s = { p.setCall c (.ended o) with
      inFlight := p.inFlight.filter (·.1 != u) } := by
    rcases hs with rfl | ⟨o', rfl⟩
    · rw [step, withdraw_of_answered hc]
    · rw [step, answer_eq_self (by simp [hc]), withdraw_of_answered hc]
  rw [hstep, inFlight?_filter (p := p) rfl, if_pos rfl]

theorem inFlight?_of_finished (hc : p.calls[c]? = some ⟨u, .running⟩)
    (shared : p.coalescing = true) (ho : o.isCrash = false) :
    (p.step (.finish c o)).inFlight? u = none := by
  rw [step, finish_of_shared hc shared ho, inFlight?_filter (p := p) rfl, if_pos rfl]

theorem inFlight?_of_crash (hc : p.calls[c]? = some ⟨u, .running⟩)
    (shared : p.coalescing = true) (ho : o.isCrash = true) (hs : s.answerTo? c = some o) :
    (p.step s).inFlight? u = p.inFlight? u := by
  cases s with
  | answer d o' =>
    simp only [Step.answerTo?, Option.ite_none_right_eq_some, Option.some.injEq] at hs
    obtain ⟨rfl, rfl⟩ := hs
    rw [step, answer_of_crash hc shared ho]
    rfl
  | finish d o' =>
    simp only [Step.answerTo?, Option.ite_none_right_eq_some, Option.some.injEq] at hs
    obtain ⟨rfl, rfl⟩ := hs
    rw [step, finish_of_crash hc shared ho]
    rfl
  | _ => cases hs

/-- A call that is over leaves the calls in flight no more. -/
theorem Linked.inFlight?_of_over (h : p.Linked) (hin : p.inFlight? u = some c)
    (shut : ∀ v st, p.calls[c]? = some ⟨v, st⟩ → ¬ st.IsOpen) (s : Step) :
    (p.step s).inFlight? u = some c := by
  rcases inFlight?_step hin s with hstill | ⟨d, st, o, hd, hopen, -⟩
  · exact hstill
  · -- The call of this user that leaves is open, and so it is this one.
    have hsame := h.isOpen (h.inFlight hin).1 hd hopen
    rw [hin] at hsame
    cases hsame
    exact absurd hopen (shut _ _ hd)

/-! ### Crashes in a run -/

/-- The directory has crashed in a call of a run. -/
def Crashed (p : Provider) (ss : List Step) (c : Nat) : Prop :=
  ∃ m, p.answerIn? c ss = some (.crashed m)

theorem Crashed.append (h : p.Crashed ss c) (s : Step) : p.Crashed (ss ++ [s]) c := by
  obtain ⟨m, hm⟩ := h
  exact ⟨m, by rw [answerIn?_append, hm, Option.some_or]⟩

theorem crashed_of_step (told : (p.run ss).Tells c (p.answerIn? c ss))
    (hc : (p.run ss).calls[c]? = some ⟨u, .running⟩) (ho : o.isCrash = true)
    (hs : s.answerTo? c = some o) : p.Crashed (ss ++ [s]) c := by
  cases o with
  | crashed m =>
    have hnone : p.answerIn? c ss = none := by
      simpa [Tells, CallState.Tells, hc] using told
    exact ⟨m, by
      rw [answerIn?_append, hnone, Option.none_or, if_pos (isRunning_eq_true.2 ⟨u, hc⟩), hs]⟩
  | roles | failed => cases ho

/-- The directory has crashed in a call before the last step, or crashes in it in that step. -/
theorem Crashed.cases (h : p.Crashed (ss ++ [s]) c) :
    p.Crashed ss c ∨ ∃ (v : String) (o : Outcome), (p.run ss).calls[c]? = some ⟨v, .running⟩ ∧
      o.isCrash = true ∧ s.answerTo? c = some o := by
  obtain ⟨m, hm⟩ := h
  rw [answerIn?_append, Option.or_eq_some_iff] at hm
  rcases hm with hold | ⟨-, hnew⟩
  · exact .inl ⟨m, hold⟩
  · split at hnew
    · rename_i hrun
      obtain ⟨v, hv⟩ := isRunning_eq_true.1 hrun
      exact .inr ⟨v, _, hv, rfl, hnew⟩
    · cases hnew

theorem Crashed.not_isOpen (h : p.Crashed ss c) (told : (p.run ss).Tells c (p.answerIn? c ss))
    {v : String} {st : CallState} (hc : (p.run ss).calls[c]? = some ⟨v, st⟩) : ¬ st.IsOpen := by
  obtain ⟨m, hm⟩ := h
  rw [Tells, hc, hm] at told
  cases st with
  | running => cases told
  | answered o =>
    obtain ⟨ho, hsound⟩ := told
    cases ho
    cases hsound
  | ended | dropped => exact id

/-! ### Calls in flight -/

/-- A call in flight is open, or the directory has crashed in it. -/
theorem open_or_crashed (cache : Cache) (ss : List Step)
    (hin : ((ofCache true cache).run ss).inFlight? u = some c) :
    ∃ st, ((ofCache true cache).run ss).calls[c]? = some ⟨u, st⟩ ∧
      (st.IsOpen ∨ (ofCache true cache).Crashed ss c) := by
  induction ss using List.reverseRecOn with
  | nil => cases hin
  | append_singleton ss s ih =>
    have told := tells_run cache ss c
    have shared : ((ofCache true cache).run ss).coalescing = true := coalescing_run _ ss
    simp only [run_append, run_cons, run_nil] at hin ⊢
    rcases inFlight?_of_step hin with hold | ⟨rfl, -, l, rfl, hl, hj⟩
    · obtain ⟨st, hc, hst⟩ := ih hold
      obtain ⟨st', hc', rfl | e⟩ := calls_step hc s
      · exact ⟨st', hc', hst.imp_right (·.append s)⟩
      · refine ⟨st', hc', ?_⟩
        cases e with
        | answer => exact .inl trivial
        -- A call that ends in any other way than by a crash is not in flight any more.
        | withdraw hs => simp [inFlight?_of_withdrawn hc hs] at hin
        | finish _ ho => simp [inFlight?_of_finished hc shared ho] at hin
        | burst hs _ ho =>
          refine .inr (crashed_of_step told hc ho ?_)
          rcases hs with rfl | rfl <;> simp [Step.answerTo?]
        | alone _ alone => cases shared.symm.trans alone
        | dropped alone => cases shared.symm.trans alone
    · exact ⟨.running, (made_step hl hj).1, .inl trivial⟩

/-- A call in which the directory has crashed is in flight. -/
theorem inFlight?_of_crashed (cache : Cache) (ss : List Step) {st : CallState}
    (hc : ((ofCache true cache).run ss).calls[c]? = some ⟨u, st⟩)
    (h : (ofCache true cache).Crashed ss c) :
    ((ofCache true cache).run ss).inFlight? u = some c := by
  induction ss using List.reverseRecOn generalizing st with
  | nil => cases hc
  | append_singleton ss s ih =>
    have told := tells_run cache ss c
    have linked := (linked_ofCache true cache).run ss
    have shared : ((ofCache true cache).run ss).coalescing = true := coalescing_run _ ss
    simp only [run_append, run_cons, run_nil] at hc ⊢
    rcases calls_of_step hc with ⟨st', hbefore, -⟩ | ⟨rfl, -⟩
    · rcases h.cases with hold | ⟨v, o, hv, ho, hs⟩
      · exact linked.inFlight?_of_over (ih hbefore hold) (fun _ _ => hold.not_isOpen told) s
      · rw [hbefore] at hv
        cases hv
        rw [inFlight?_of_crash hbefore shared ho hs]
        exact linked.isOpen shared hbefore trivial
    · -- A call that has just been made has no answer.
      rcases h.cases with ⟨m, hm⟩ | ⟨v, o, hv, -⟩
      · simp [Tells, hm] at told
      · simp at hv

/-- A lookup that misses while no call of its user is in flight makes one, and returns the roles
that the directory gives. -/
theorem returns_of_unshared (shared : p.coalescing = true)
    (hl : p.lookups[l]? = some ⟨u, .missed⟩) (hin : p.inFlight? u = none) (roles : RoleSet) :
    let q := p.run [.ask l, .finish p.calls.length (.roles roles), .resume l]
    q.calls[p.calls.length]? = some ⟨u, .ended (.roles roles)⟩ ∧
      q.outcome? l = some (.roles roles) := by
  have hj : p.joined? u = none := by rw [joined?, if_pos shared, hin]
  have hcall := (made_step hl hj).1
  have hwaits : (p.step (.ask l)).lookups[l]? = some ⟨u, .waiting p.calls.length⟩ := by
    rw [step, ask_of_not_joined hl hj]
    simp [getElem?_setPhase, hl]
  have hshared : (p.step (.ask l)).coalescing = true := by rw [coalescing_step, shared]
  simp only [run_cons, run_nil]
  generalize p.step (.ask l) = q at hcall hwaits hshared
  have hended : (q.step (.finish p.calls.length (.roles roles))).calls[p.calls.length]? =
      some ⟨u, .ended (.roles roles)⟩ := by
    rw [step, finish_of_shared hcall hshared rfl]
    simp [setCall, hcall]
  have hstill : (q.step (.finish p.calls.length (.roles roles))).lookups[l]? =
      some ⟨u, .waiting p.calls.length⟩ := by
    rw [step, finish_of_shared hcall hshared rfl]
    exact hwaits
  generalize q.step (.finish p.calls.length (.roles roles)) = r at hended hstill
  rw [resume_of_roles hstill (callState?_eq_some.2 ⟨u, hended⟩)]
  exact ⟨hended, by simp [outcome?, getElem?_setPhase, hstill]⟩

/-- **Only a crash keeps a call in flight.** In every run with coalescing, a call of a user is in
flight exactly as long as it is open, and for ever if the directory has crashed in it. When all
calls of a user are over and none has crashed, the next lookup of the user that misses makes a call,
and returns roles as soon as the directory gives them. -/
theorem inFlight_iff_open_or_crashed (cache : Cache) (ss : List Step) (user : String) :
    let start := ofCache true cache
    let p := start.run ss
    (∀ c, p.inFlight? user = some c ↔
      ∃ st, p.calls[c]? = some ⟨user, st⟩ ∧ (st.IsOpen ∨ start.Crashed ss c)) ∧
    ((∀ c st, p.calls[c]? = some ⟨user, st⟩ → ¬ st.IsOpen ∧ ¬ start.Crashed ss c) →
      ∀ l, p.lookups[l]? = some ⟨user, .missed⟩ → ∀ roles,
        let q := p.run [.ask l, .finish p.calls.length (.roles roles), .resume l]
        q.calls[p.calls.length]? = some ⟨user, .ended (.roles roles)⟩ ∧
          q.outcome? l = some (.roles roles)) := by
  intro start p
  have linked : p.Linked := (linked_ofCache true cache).run ss
  have shared : p.coalescing = true := coalescing_run _ ss
  have hiff (c : Nat) : p.inFlight? user = some c ↔
      ∃ st, p.calls[c]? = some ⟨user, st⟩ ∧ (st.IsOpen ∨ start.Crashed ss c) := by
    constructor
    · exact open_or_crashed cache ss
    · rintro ⟨st, hc, hopen | hcrash⟩
      · exact linked.isOpen shared hc hopen
      · exact inFlight?_of_crashed cache ss hc hcrash
  refine ⟨hiff, ?_⟩
  intro shut l hl roles
  apply returns_of_unshared shared hl
  rw [Option.eq_none_iff_forall_ne_some]
  intro c hin
  obtain ⟨st, hc, hst⟩ := (hiff c).1 hin
  obtain ⟨hopen, hcrash⟩ := shut c st hc
  exact hst.elim hopen hcrash

/-- The first call of alice fails, and she is asked for again. -/
theorem inFlight_iff_open_or_crashed_alice :
    let start := ofCache true ⟨⟨1, some 100, []⟩, ⟨1, none, []⟩⟩
    let ss : List Step := [.start "alice", .check 0, .ask 0, .finish 0 (.failed .unavailable),
      .resume 0, .start "alice", .check 1]
    let p := start.run ss
    let devs : RoleSet := RoleSet.ofList ["devs"]
    (∀ c st, p.calls[c]? = some ⟨"alice", st⟩ → ¬ st.IsOpen ∧ ¬ start.Crashed ss c) ∧
      p.lookups[1]? = some ⟨"alice", .missed⟩ ∧
      (p.run [.ask 1, .finish 1 (.roles devs), .resume 1]).outcome? 1 = some (.roles devs) := by
  intro start ss p devs
  have hcalls : p.calls = [⟨"alice", .ended (.failed .unavailable)⟩] := by decide
  have hanswer : start.answerIn? 0 ss = some (.failed .unavailable) := by decide
  have shut (c : Nat) (st : CallState) (hc : p.calls[c]? = some ⟨"alice", st⟩) :
      ¬ st.IsOpen ∧ ¬ start.Crashed ss c := by
    rw [hcalls, List.getElem?_singleton] at hc
    split at hc
    · rename_i h
      cases hc
      subst h
      exact ⟨id, fun ⟨m, hm⟩ => by simp [hanswer] at hm⟩
    · cases hc
  have hmissed : p.lookups[1]? = some ⟨"alice", .missed⟩ := by decide
  have hnext := (inFlight_iff_open_or_crashed _ ss "alice").2 shut 1 hmissed devs
  exact ⟨shut, hmissed, hnext.2⟩

/-- The directory crashes once. All later lookups of alice see that crash, and the directory is not
asked for her again. -/
theorem stuck_after_crash :
    let start := ofCache true ⟨⟨1, some 100, []⟩, ⟨1, none, []⟩⟩
    let p := start.run [.start "alice", .check 0, .ask 0, .finish 0 (.crashed "lost"), .resume 0]
    let q := p.run [.start "alice", .check 1, .ask 1, .resume 1]
    let seen : Outcome := .failed (.unavailableBecause (crashMessage 0 "lost"))
    p.callState? 0 = some (.ended seen) ∧ p.inFlight? "alice" = some 0 ∧
      q.outcome? 1 = some seen ∧ q.calls.length = 1 := by
  decide

end Provider
end RoleLookup
