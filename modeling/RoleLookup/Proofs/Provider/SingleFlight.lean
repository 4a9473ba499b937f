import Mathlib.Data.List.Induction
import RoleLookup.Proofs.Provider.Links

/-!
# Shared calls

With coalescing, lookups of one user that miss at the same time share one call.

* `answerIn?`, what the directory answers a call in a run;
* `CallState.Tells`, `tells_run`, the state of a call against the answer of the directory: all who
  wait for a call see the answer that the directory gave to this call, and a crash as a failure;
* `Hears`, how a lookup that waits goes on;
* `single_flight`, the calls and the waiting lookups of every run.
-/

namespace RoleLookup
namespace Provider

/-- The outcome with which a step answers a call, if it does. -/
def Step.answerTo? (c : Nat) : Step → Option Outcome
  | .answer d o | .finish d o => if d = c then some o else none
  | _ => none

/-- The outcome with which the directory answers a call in a run, if it does. -/
def answerIn? (c : Nat) (p : Provider) : List Step → Option Outcome
  | [] => none
  | s :: ss => (if p.isRunning c then s.answerTo? c else none).or (answerIn? c (p.step s) ss)

variable {p : Provider} {s : Step} {l c d : Nat} {u v : String} {st : CallState}

theorem answerIn?_append (p : Provider) (ss : List Step) (s : Step) :
    p.answerIn? c (ss ++ [s]) =
      (p.answerIn? c ss).or (if (p.run ss).isRunning c then s.answerTo? c else none) := by
  induction ss generalizing p with
  | nil => exact Option.or_none
  | cons t ss ih => rw [List.cons_append, answerIn?, ih, answerIn?, Option.or_assoc, run_cons]

theorem isRunning_eq_true : p.isRunning c = true ↔ ∃ u, p.calls[c]? = some ⟨u, .running⟩ := by
  rw [isRunning, beq_iff_eq, callState?_eq_some]

/-! ### What the state of a call tells -/

/-- What the state of a shared call says about the answer of the directory. -/
def CallState.Tells (c : Nat) (answer : Option Outcome) : CallState → Prop
  | .running => answer = none
  | .answered o => answer = some o ∧ o.isCrash = false
  | .ended o => ∃ o', answer = some o' ∧ o = reported c o'
  | .dropped => False

/-- A call and the answer of the directory so far. A call that has not been made has none. -/
def Tells (p : Provider) (c : Nat) (answer : Option Outcome) : Prop :=
  match p.calls[c]? with
  | none => answer = none
  | some call => call.state.Tells c answer

theorem reported_of_sound {o : Outcome} (ho : o.isCrash = false) : reported c o = o := by
  cases o with
  | crashed m => cases ho
  | roles roles => rfl
  | failed e => rfl

/-- The answer to a running call is told from then on. -/
theorem tells_of_answer {o : Outcome} (shared : p.coalescing = true)
    (hc : p.calls[c]? = some ⟨u, .running⟩) (hs : s.answerTo? c = some o) :
    (p.step s).Tells c (some o) := by
  have hset (st : CallState) : (p.setCall c st).calls[c]? = some ⟨u, st⟩ := by
    simp [setCall, hc]
  cases s with
  | answer d o' =>
    simp only [Step.answerTo?, Option.ite_none_right_eq_some, Option.some.injEq] at hs
    obtain ⟨rfl, rfl⟩ := hs
    cases ho : o'.isCrash with
    | false =>
      rw [step, answer_of_shared hc shared ho, Tells, hset]
      exact ⟨rfl, ho⟩
    | true =>
      rw [step, answer_of_crash hc shared ho, Tells, hset]
      exact ⟨o', rfl, rfl⟩
  | finish d o' =>
    simp only [Step.answerTo?, Option.ite_none_right_eq_some, Option.some.injEq] at hs
    obtain ⟨rfl, rfl⟩ := hs
    cases ho : o'.isCrash with
    | false =>
      rw [step, finish_of_shared hc shared ho, Tells, hset]
      exact ⟨o', rfl, (reported_of_sound ho).symm⟩
    | true =>
      rw [step, finish_of_crash hc shared ho, Tells, hset]
      exact ⟨o', rfl, rfl⟩
  | _ => cases hs

/-- A step that is no answer to a running call leaves what is told as it is. -/
theorem tells_of_no_answer {a : Option Outcome} (shared : p.coalescing = true)
    (h : p.Tells c a) (hs : ∀ u, p.calls[c]? = some ⟨u, .running⟩ → s.answerTo? c = none) :
    (p.step s).Tells c a := by
  cases hafter : (p.step s).calls[c]? with
  | none =>
    cases hbefore : p.calls[c]? with
    | none => simpa [Tells, hbefore, hafter] using h
    | some k =>
      obtain ⟨st, hst, -⟩ := calls_step hbefore s
      simp [hafter] at hst
  | some k =>
    obtain ⟨u, st⟩ := k
    rw [Tells, hafter]
    rcases calls_of_step hafter with ⟨st', hbefore, rfl | e⟩ | ⟨rfl, rfl, -⟩
    · simpa [Tells, hbefore] using h
    · simp only [Tells, hbefore] at h
      cases e with
      | answer | finish => simpa [Step.answerTo?] using hs u hbefore
      | burst hs' | alone hs' =>
        rcases hs' with rfl | rfl <;> simpa [Step.answerTo?] using hs u hbefore
      -- A crash never becomes an answer, so what is seen is the answer itself.
      | withdraw => exact ⟨_, h.1, (reported_of_sound h.2).symm⟩
      | dropped alone => simp [shared] at alone
    · simpa [Tells, CallState.Tells] using h

/-- **All who wait see the answer of the directory.** -/
theorem tells_run (cache : Cache) (ss : List Step) (c : Nat) :
    ((ofCache true cache).run ss).Tells c ((ofCache true cache).answerIn? c ss) := by
  -- From the end of the run: its last step meets the answer that the steps before it have given.
  induction ss using List.reverseRecOn with
  | nil => rfl
  | append_singleton ss s ih =>
    rw [answerIn?_append, run_append]
    generalize hq : (ofCache true cache).run ss = q at ih
    have shared : q.coalescing = true := by
      rw [← hq, coalescing_run]
      rfl
    by_cases hrun : ∃ u, q.calls[c]? = some ⟨u, .running⟩
    · obtain ⟨u, hc⟩ := hrun
      have hnone : (ofCache true cache).answerIn? c ss = none := by
        simpa [Tells, CallState.Tells, hc] using ih
      rw [hnone, Option.none_or, if_pos (isRunning_eq_true.2 ⟨u, hc⟩)]
      cases hs : s.answerTo? c with
      | none => exact tells_of_no_answer shared (hnone ▸ ih) fun _ _ => hs
      | some o => exact tells_of_answer shared hc hs
    · rw [if_neg (by rwa [isRunning_eq_true]), Option.or_none]
      exact tells_of_no_answer shared ih fun u hc => absurd ⟨u, hc⟩ hrun

/-! ### Lookups that wait -/

/-- How a lookup that waits for a call goes on, given what the directory has answered the call. -/
structure Hears (p : Provider) (l c : Nat) (user : String) (answer : Option Outcome) : Prop where
  /-- The call is one of its own user. -/
  own : ∃ st, p.calls[c]? = some ⟨user, st⟩
  /-- It waits on, unless its caller gives up or it takes the outcome of a call that has ended. -/
  waits : ∀ s, (p.step s).lookups[l]? = some ⟨user, .waiting c⟩ ∨ s = .abandon l ∨
    (s = .receive l ∨ s = .resume l) ∧ ∃ o, p.callState? c = some (.ended o)
  /-- The outcome that it takes is the answer of the directory. -/
  takes : ∀ o, p.callState? c = some (.ended o) →
    (∃ o', answer = some o' ∧ o = reported c o') ∧
      p.step (.receive l) = p.take l user c o ∧ p.step (.resume l) = (p.take l user c o).store l

theorem waits_or_goes_on (hl : p.lookups[l]? = some ⟨u, .waiting c⟩) (s : Step) :
    (p.step s).lookups[l]? = some ⟨u, .waiting c⟩ ∨ s = .abandon l ∨
      (s = .receive l ∨ s = .resume l) ∧ ∃ o, p.callState? c = some (.ended o) := by
  obtain ⟨ph, hph, rfl | m⟩ := lookups_step hl s
  · exact .inl hph
  · cases m with
    | write hc => exact .inr (.inr ⟨.inl rfl, _, hc⟩)
    | resume hc => exact .inr (.inr ⟨.inr rfl, _, hc⟩)
    | fallBack hs hc | fail hs hc | crash hs hc => exact .inr (.inr ⟨hs, _, hc⟩)
    | abandon => exact .inr (.inl rfl)

theorem hears_run (cache : Cache) (ss : List Step)
    (hl : ((ofCache true cache).run ss).lookups[l]? = some ⟨u, .waiting c⟩) :
    ((ofCache true cache).run ss).Hears l c u ((ofCache true cache).answerIn? c ss) := by
  have told := tells_run cache ss c
  have linked := (linked_ofCache true cache).run ss
  generalize (ofCache true cache).run ss = p at hl told linked
  refine ⟨?_, waits_or_goes_on hl, ?_⟩
  · obtain ⟨st, hc, -⟩ := linked.waiting hl
    exact ⟨st, hc⟩
  · intro o ho
    obtain ⟨v, hc⟩ := callState?_eq_some.1 ho
    rw [Tells, hc] at told
    refine ⟨told, receive_of_ended hl ho, ?_⟩
    rw [step, receive_of_ended hl ho]

theorem step_ask_of_inFlight (shared : p.coalescing = true)
    (hl : p.lookups[l]? = some ⟨u, .missed⟩) (hin : p.inFlight? u = some c) :
    p.step (.ask l) = p.setPhase l (.waiting c) :=
  ask_of_joined hl (by rw [joined?, if_pos shared, hin])

/-- **Single flight.** In every run with coalescing, a running call is the one in flight for its
user and no other call of that user runs. A lookup that misses while a call of its user is in
flight makes no call and waits for that one. A lookup that waits goes on with what the directory
has answered to its call, which is a call of its own user, and so does a lookup that writes. -/
theorem single_flight (cache : Cache) (ss : List Step) :
    let start := ofCache true cache
    let p := start.run ss
    (∀ (c : Nat) (u : String), p.calls[c]? = some ⟨u, .running⟩ →
      p.inFlight? u = some c ∧ ∀ d : Nat, p.calls[d]? = some ⟨u, .running⟩ → d = c) ∧
    (∀ (l c : Nat) (u : String), p.lookups[l]? = some ⟨u, .missed⟩ → p.inFlight? u = some c →
      (p.step (.ask l)).calls = p.calls ∧
        (p.step (.ask l)).lookups[l]? = some ⟨u, .waiting c⟩) ∧
    (∀ (l c : Nat) (u : String), p.lookups[l]? = some ⟨u, .waiting c⟩ →
      p.Hears l c u (start.answerIn? c ss)) ∧
    ∀ (l c : Nat) (u : String) (e : Entry), p.lookups[l]? = some ⟨u, .storing c e⟩ →
      e.user = u ∧ p.calls[c]? = some ⟨u, .ended (.roles e.roles)⟩ := by
  intro start p
  have linked : p.Linked := (linked_ofCache true cache).run ss
  have shared : p.coalescing = true := coalescing_run _ ss
  refine ⟨?_, ?_, ?_, ?_⟩
  · intro c u hc
    have hin := linked.isOpen shared hc trivial
    refine ⟨hin, ?_⟩
    intro d hd
    have hsame := linked.isOpen shared hd trivial
    rw [hin] at hsame
    cases hsame
    rfl
  · intro l c u hl hin
    rw [step_ask_of_inFlight shared hl hin]
    exact ⟨rfl, by simp [getElem?_setPhase, hl]⟩
  · intro l c u hl
    exact hears_run cache ss hl
  · intro l c u e hl
    exact linked.storing hl

/-- Two lookups of one user while the directory is asked, and the call crashes. -/
theorem single_flight_crash :
    let start := ofCache true ⟨⟨1, some 100, []⟩, ⟨1, none, []⟩⟩
    let before : List Step := [.start "alice", .check 0, .ask 0, .start "alice", .check 1]
    let p := start.run before
    let q := start.run (before ++ [.ask 1, .finish 0 (.crashed "lost")])
    let seen : Outcome := .failed (.unavailableBecause (crashMessage 0 "lost"))
    (p.lookups[1]? = some ⟨"alice", .missed⟩ ∧ p.inFlight? "alice" = some 0 ∧
      (p.step (.ask 1)).calls = [⟨"alice", .running⟩]) ∧
    q.lookups[1]? = some ⟨"alice", .waiting 0⟩ ∧ q.callState? 0 = some (.ended seen) ∧
      q.step (.receive 1) = q.take 1 "alice" 0 seen := by
  intro start before p q seen
  have hmissed : p.lookups[1]? = some ⟨"alice", .missed⟩ := by decide
  have hin : p.inFlight? "alice" = some 0 := by decide
  have hwaits : q.lookups[1]? = some ⟨"alice", .waiting 0⟩ := by decide
  have hseen : q.callState? 0 = some (.ended seen) := by decide
  obtain ⟨hcalls, -⟩ := (single_flight _ before).2.1 1 0 "alice" hmissed hin
  obtain ⟨-, htake, -⟩ := ((single_flight _ _).2.2.1 1 0 "alice" hwaits).takes seen hseen
  exact ⟨⟨hmissed, hin, hcalls.trans (by decide)⟩, hwaits, hseen, htake⟩

end Provider
end RoleLookup
