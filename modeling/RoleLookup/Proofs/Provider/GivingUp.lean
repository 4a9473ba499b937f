import Mathlib.Data.List.Induction
import RoleLookup.Proofs.Provider.InFlight
import RoleLookup.Proofs.Provider.SideBySide

/-!
# Callers who give up

A caller who gives up while others share its call is of no consequence to them: the call goes on,
and they come to the same as if everybody had stayed.

* `staying`, the same run with nobody giving up;
* `Abreast`, what the providers after both runs have in common, and `inStep_run`, how far a lookup
  that shares the call is in both;
* `giving_up_harms_nobody`.
-/

namespace RoleLookup
namespace Provider

/-- A run without the steps in which callers of `gone` give up. -/
def staying (gone : Nat → Bool) (ss : List Step) : List Step := ss.filter (!·.isFarewell gone)

/-- A caller of `gone` gives up only after its lookup has joined the call. A lookup does not pause
before it waits for a call, so that its caller has no earlier moment to give up. -/
def JoinsFirst (gone : Nat → Bool) (c : Nat) (p : Provider) : Step → Prop
  | .abandon l => gone l = true → ∀ x ∈ p.lookups[l]?, x.phase.HasJoined c
  | _ => True

instance (gone : Nat → Bool) (c : Nat) (p : Provider) (s : Step) :
    Decidable (p.JoinsFirst gone c s) :=
  match s with
  | .abandon l => inferInstanceAs (Decidable (gone l = true → _))
  | .start _ | .check _ | .ask _ | .answer _ _ | .withdraw _ | .finish _ _ | .receive _ | .store _
  | .resume _ | .put _ _ | .erase _ _ | .clear _ | .invalidate _ | .invalidateAll | .advance _ =>
    .isTrue trivial

/-- A lookup waits for a call at some moment of a run. -/
def Shares (p : Provider) (ss : List Step) (l c : Nat) : Prop :=
  ∃ before after, ss = before ++ after ∧ (p.run before).awaited? l = some c

/-- The call has given roles in both, or has not and then both are alike. -/
def Abreast (gone : Nat → Bool) (c : Nat) (p q : Provider) : Prop :=
  Over c p q ∨ Alike gone c p q ∧ ∀ roles, p.callState? c ≠ some (.ended (.roles roles))

variable {gone : Nat → Bool} {p q : Provider} {s : Step} {ss : List Step} {l k c : Nat}
  {u : String} {o : Outcome}

/-! ### One step -/

theorem Alike.abreast (h : Alike gone c p q) : Abreast gone c p q := by
  by_cases hroles : ∃ roles, p.callState? c = some (.ended (.roles roles))
  · obtain ⟨roles, ended⟩ := hroles
    exact .inl (.of_alike h ended)
  · exact .inr ⟨h, not_exists.1 hroles⟩

namespace Abreast

theorem step (h : Abreast gone c p q) (stays : s.isFarewell gone = false) :
    Abreast gone c (p.step s) (q.step s) := by
  rcases h with h | ⟨h, early⟩
  · exact .inl (h.step s)
  · exact (h.step stays early).abreast

theorem leave (h : Abreast gone c p q) (hl : gone l = true)
    (joined : p.JoinsFirst gone c (.abandon l)) : Abreast gone c (p.step (.abandon l)) q := by
  rcases h with h | ⟨h, -⟩
  · exact .inl (h.leave l)
  · exact (h.leave hl (joined hl)).abreast

theorem hearsSame (h : Abreast gone c p q) : HearsSame c p q := by
  rcases h with h | ⟨h, -⟩
  · exact h.hearsSame
  · exact h.hearsSame

theorem calls (h : Abreast gone c p q) : p.calls[c]? = q.calls[c]? := by
  rcases h with ⟨-, u, roles, hp, hq⟩ | ⟨h, -⟩
  · rw [hp, hq]
  · rw [h.calls]

end Abreast

/-! ### Lookups that share the call -/

theorem Shares.cases (h : p.Shares (ss ++ [s]) l c) :
    p.Shares ss l c ∨ ((p.run ss).step s).awaited? l = some c := by
  obtain ⟨before, after, heq, hw⟩ := h
  rcases List.eq_nil_or_concat after with rfl | ⟨after, x, rfl⟩
  · rw [List.append_nil] at heq
    subst heq
    rw [run_append] at hw
    exact .inr hw
  · rw [List.concat_eq_append, ← List.append_assoc] at heq
    obtain ⟨rfl, -⟩ := List.append_inj' heq rfl
    exact .inl ⟨before, after, rfl, hw⟩

/-- A call that has given roles has not crashed. -/
theorem not_crashed_of_roles {cache : Cache} {roles : RoleSet}
    (hc : ((ofCache true cache).run ss).calls[c]? = some ⟨u, .ended (.roles roles)⟩) :
    ¬ (ofCache true cache).Crashed ss c := by
  rintro ⟨m, hm⟩
  have told := tells_run cache ss c
  rw [Tells, hc, hm] at told
  obtain ⟨o, ho, hroles⟩ := told
  cases ho
  cases hroles

/-- Nobody joins a call that has given roles. -/
theorem awaited?_of_roles {cache : Cache} {roles : RoleSet}
    (hc : ((ofCache true cache).run ss).calls[c]? = some ⟨u, .ended (.roles roles)⟩)
    (hw : (((ofCache true cache).run ss).step s).awaited? l = some c) :
    ((ofCache true cache).run ss).awaited? l = some c := by
  obtain ⟨v, hv⟩ := awaited?_eq_some.1 hw
  have shared : ((ofCache true cache).run ss).coalescing = true := coalescing_run _ ss
  rcases lookups_of_step hv with ⟨phase, hphase, rfl | m⟩ | ⟨-, hnew, -⟩
  · exact awaited?_eq_some.2 ⟨v, hphase⟩
  · cases m with
    | join hj =>
      rw [joined?, if_pos shared] at hj
      obtain ⟨st, hst, hopen | hcrash⟩ := open_or_crashed cache ss hj
      · rw [hc] at hst
        cases hst
        exact hopen.elim
      · exact absurd hcrash (not_crashed_of_roles hc)
    | call hj => simp at hc
  · cases hnew

/-- A lookup that waits has begun to do so in a step of its own. -/
theorem awaited?_of_abandon (hw : (p.step (.abandon k)).awaited? l = some c) :
    p.awaited? l = some c := by
  obtain ⟨v, hv⟩ := awaited?_eq_some.1 hw
  rcases lookups_of_step hv with ⟨phase, hphase, rfl | m⟩ | ⟨hs, -⟩
  · exact awaited?_eq_some.2 ⟨v, hphase⟩
  · cases m
  · cases hs

/-! ### Both runs -/

theorem staying_append (gone : Nat → Bool) (ss : List Step) (s : Step) : staying gone (ss ++ [s]) =
    if s.isFarewell gone then staying gone ss else staying gone ss ++ [s] := by
  cases hs : s.isFarewell gone <;> simp [staying, hs]

/-- Whoever gives up in a step of a run that only callers of `gone` leave. -/
theorem eq_abandon_of_isFarewell (h : s.isFarewell gone = true) :
    ∃ l, s = .abandon l ∧ gone l = true := by
  cases s with
  | abandon l => exact ⟨l, rfl, h⟩
  | _ => cases h

theorem abreast_run (cache : Cache)
    (joined : Along (JoinsFirst gone c) (ofCache true cache) ss) :
    Abreast gone c ((ofCache true cache).run ss) ((ofCache true cache).run (staying gone ss)) := by
  induction ss using List.reverseRecOn with
  | nil =>
    refine .inr ⟨⟨rfl, rfl, rfl, rfl, rfl, rfl, rfl, fun l => .inl rfl⟩, ?_⟩
    simp [callState?, ofCache]
  | append_singleton ss s ih =>
    obtain ⟨hss, hs, -⟩ := Along.append.1 joined
    rw [staying_append, run_append, run_cons, run_nil]
    cases hfare : s.isFarewell gone with
    | true =>
      obtain ⟨l, rfl, hl⟩ := eq_abandon_of_isFarewell hfare
      exact (ih hss).leave hl hs
    | false =>
      simp only [Bool.false_eq_true, if_false, run_append, run_cons, run_nil]
      exact (ih hss).step hfare

/-- A lookup that shares the call, and whose caller stays, is as far in both. -/
theorem inStep_run (cache : Cache)
    (joined : Along (JoinsFirst gone c) (ofCache true cache) ss) (hl : gone l = false)
    (hshares : (ofCache true cache).Shares ss l c) :
    InStep c ((ofCache true cache).run ss).lookups[l]?
      ((ofCache true cache).run (staying gone ss)).lookups[l]? := by
  induction ss using List.reverseRecOn with
  | nil =>
    obtain ⟨before, after, heq, hw⟩ := hshares
    obtain ⟨rfl, rfl⟩ := List.append_eq_nil_iff.1 heq.symm
    simp [awaited?, ofCache] at hw
  | append_singleton ss s ih =>
    obtain ⟨hss, hs, -⟩ := Along.append.1 joined
    have abreast := abreast_run cache hss
    have old (h : (ofCache true cache).Shares ss l c) := ih hss h
    have now (hw : ((ofCache true cache).run ss).awaited? l = some c) :
      (ofCache true cache).Shares ss l c := ⟨ss, [], (List.append_nil ss).symm, hw⟩
    rw [staying_append, run_append, run_cons, run_nil]
    cases hfare : s.isFarewell gone with
    | true =>
      obtain ⟨k, rfl, hk⟩ := eq_abandon_of_isFarewell hfare
      have hne : k ≠ l := by
        rintro rfl
        simp [hk] at hl
      rw [if_pos rfl]
      rcases hshares.cases with h | hw
      · exact (old h).leave hne
      · exact (old (now (awaited?_of_abandon hw))).leave hne
    | false =>
      simp only [Bool.false_eq_true, if_false, run_append, run_cons, run_nil]
      rcases hshares.cases with h | hw
      · exact (old h).step abreast.hearsSame s
      · rcases abreast with hover | ⟨halike, early⟩
        · obtain ⟨u, roles, hp, -⟩ := hover.ended
          exact (old (now (awaited?_of_roles hp hw))).step hover.hearsSame s
        · -- It has just joined, and then both are alike.
          obtain ⟨v, hv⟩ := awaited?_eq_some.1 hw
          rcases (halike.step hfare early).records l with hsame | ⟨hgone, -⟩
          · exact ⟨_, hv, hsame ▸ hv, rfl⟩
          · simp [hl] at hgone

/-! ### What becomes of the callers who stay -/

namespace InStep

theorem lookups (h : InStep c p.lookups[l]? q.lookups[l]?) : p.lookups[l]? = q.lookups[l]? := by
  obtain ⟨k, hp, hq, -⟩ := h
  rw [hp, hq]

/-- A lookup that has joined a call asks no more. -/
theorem calls_ask (h : InStep c p.lookups[l]? q.lookups[l]?) :
    (p.step (.ask l)).calls = p.calls := by
  obtain ⟨⟨u, phase⟩, hp, -, hj⟩ := h
  rw [Provider.step, ask_eq_self]
  intro v hv
  rw [hp] at hv
  cases hv
  exact hj

end InStep

/-- A lookup whose call has ended is over in one step. -/
theorem outcome?_resume (hw : p.awaited? l = some c) (hc : p.callState? c = some (.ended o)) :
    ∃ o', (p.step (.resume l)).outcome? l = some o' := by
  obtain ⟨u, hl⟩ := awaited?_eq_some.1 hw
  have hreceive := lookups_receive hl hc
  rw [step]
  cases o with
  | roles roles => exact ⟨.roles roles, outcome?_eq_some.2 ⟨u, lookups_store hreceive⟩⟩
  | failed | crashed =>
    have hstore : (p.receive l).store l = p.receive l :=
      step_of_over (s := .store l) hreceive trivial rfl
    rw [hstore]
    exact ⟨_, outcome?_eq_some.2 ⟨u, hreceive⟩⟩

theorem callState?_finish (hc : p.calls[c]? = some ⟨u, .running⟩) (shared : p.coalescing = true)
    (o : Outcome) : (p.step (.finish c o)).callState? c = some (.ended (reported c o)) := by
  rw [callState?_eq_some]
  refine ⟨u, ?_⟩
  rw [step]
  cases ho : o.isCrash with
  | false =>
    rw [finish_of_shared hc shared ho, reported_of_sound ho]
    simp [setCall, hc]
  | true =>
    rw [finish_of_crash hc shared ho]
    simp [setCall, hc]

/-- **Nobody is harmed by callers who give up.** In a run with coalescing some callers give up after
they have joined a call. The call comes to the same as if they had all stayed: it is never dropped,
it is in flight while it runs, and it ends when the directory answers. A caller who stays is as far
as it would be then, does not ask again, and has the same outcome one step after the call has ended.
A call that has ended without a crash is in flight no longer, whether or not anybody is left. -/
theorem giving_up_harms_nobody (cache : Cache) (gone : Nat → Bool) (c : Nat) (ss : List Step)
    (joined : Along (JoinsFirst gone c) (ofCache true cache) ss) :
    let start := ofCache true cache
    let p := start.run ss
    let q := start.run (staying gone ss)
    (p.calls[c]? = q.calls[c]? ∧ p.callState? c ≠ some .dropped ∧
      ∀ user, p.calls[c]? = some ⟨user, .running⟩ → p.inFlight? user = some c ∧
        ∀ o, (p.step (.finish c o)).callState? c = some (.ended (reported c o))) ∧
    (∀ l, gone l = false → start.Shares ss l c →
      p.lookups[l]? = q.lookups[l]? ∧ (p.step (.ask l)).calls = p.calls ∧
        ∀ o, p.awaited? l = some c → p.callState? c = some (.ended o) →
          ∃ o', (p.step (.resume l)).outcome? l = some o' ∧
            (q.step (.resume l)).outcome? l = some o') ∧
    ∀ o, p.callState? c = some (.ended o) → ¬ start.Crashed ss c →
      ∀ user, p.inFlight? user ≠ some c := by
  intro start p q
  have abreast : Abreast gone c p q := abreast_run cache joined
  have linked : p.Linked := (linked_ofCache true cache).run ss
  have shared : p.coalescing = true := coalescing_run _ ss
  refine ⟨⟨abreast.calls, ?_, ?_⟩, ?_, ?_⟩
  · intro hc
    obtain ⟨u, hu⟩ := callState?_eq_some.1 hc
    have told : p.Tells c (start.answerIn? c ss) := tells_run cache ss c
    rw [Tells, hu] at told
    exact told
  · intro user hc
    exact ⟨linked.isOpen shared hc trivial, callState?_finish hc shared⟩
  · intro l hl hshares
    have inStep : InStep c p.lookups[l]? q.lookups[l]? := inStep_run cache joined hl hshares
    refine ⟨inStep.lookups, inStep.calls_ask, ?_⟩
    intro o hw hc
    obtain ⟨o', ho'⟩ := outcome?_resume hw hc
    have hsame := (inStep.step abreast.hearsSame (.resume l)).lookups
    refine ⟨o', ho', ?_⟩
    rw [outcome?, ← hsame]
    exact ho'
  · intro o hc hcrash user hin
    obtain ⟨st, hst, hopen | h⟩ := open_or_crashed cache ss hin
    · have hstate : p.callState? c = some st := callState?_eq_some.2 ⟨user, hst⟩
      rw [hc] at hstate
      cases hstate
      exact hopen
    · exact hcrash h

/-- Three lookups of alice share a call. The first, which has made it, gives up while the call runs,
and the last one when it has ended. -/
theorem giving_up_harms_nobody_alice :
    let start := ofCache true ⟨⟨1, some 100, []⟩, ⟨1, none, []⟩⟩
    let devs : Outcome := .roles (RoleSet.ofList ["devs"])
    let asking : List Step := [.start "alice", .check 0, .ask 0, .start "alice", .check 1, .ask 1,
      .start "alice", .check 2, .ask 2]
    let ss : List Step := asking ++ [.abandon 0, .finish 0 devs, .abandon 2, .resume 1, .resume 2]
    let gone : Nat → Bool := (· != 1)
    let p := start.run ss
    let q := start.run (staying gone ss)
    Along (JoinsFirst gone 0) start ss ∧ start.Shares ss 1 0 ∧
      p.lookups = [⟨"alice", .abandoned⟩, ⟨"alice", .finished devs⟩, ⟨"alice", .abandoned⟩] ∧
      p.lookups[1]? = q.lookups[1]? ∧ p.calls[0]? = q.calls[0]? ∧
      p.callState? 0 = some (.ended devs) ∧ p.inFlight = [] := by
  intro start devs asking ss gone p q
  have joined : Along (JoinsFirst gone 0) start ss := by decide
  have hshares : start.Shares ss 1 0 := ⟨asking, _, rfl, by decide⟩
  obtain ⟨⟨hcall, -⟩, hstay, -⟩ := giving_up_harms_nobody _ gone 0 ss joined
  exact ⟨joined, hshares, by decide, (hstay 1 rfl hshares).1, hcall, by decide, by decide⟩

end Provider
end RoleLookup
