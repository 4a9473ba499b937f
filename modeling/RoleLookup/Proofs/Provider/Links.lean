import RoleLookup.Proofs.Provider.Parts

/-!
# Lookups, calls and the calls in flight

What lookups, calls and the list of calls in flight have to do with each other in every provider
that a run leads to.

* `Linked`, the invariant;
* `Linked.step`, each step keeps it, one lemma for each part;
* `Linked.run`, and `linked_ofCache` for the provider that a run starts from.
-/

namespace RoleLookup
namespace Provider

variable {p : Provider} {s : Step} {l k c d : Nat} {u v : String} {st : CallState}

/-- Lookups and calls belong together. -/
structure Linked (p : Provider) : Prop where
  /-- A lookup waits for a call of its own user, and the call has not been dropped. -/
  waiting : ∀ {l c : Nat} {u : String}, p.lookups[l]? = some ⟨u, .waiting c⟩ →
    ∃ st, p.calls[c]? = some ⟨u, st⟩ ∧ st ≠ .dropped
  /-- Without coalescing, one lookup at most waits for a call. -/
  sole : ∀ {l k c : Nat} {u v : String}, p.coalescing = false →
    p.lookups[l]? = some ⟨u, .waiting c⟩ → p.lookups[k]? = some ⟨v, .waiting c⟩ → l = k
  /-- A lookup between its two writes writes what a call of its own user has given. -/
  storing : ∀ {l c : Nat} {u : String} {e : Entry}, p.lookups[l]? = some ⟨u, .storing c e⟩ →
    e.user = u ∧ p.calls[c]? = some ⟨u, .ended (.roles e.roles)⟩
  /-- A call in flight for a user is a call of that user. -/
  inFlight : ∀ {u : String} {c : Nat}, p.inFlight? u = some c →
    p.coalescing = true ∧ ∃ st, p.calls[c]? = some ⟨u, st⟩ ∧ st ≠ .dropped
  /-- A shared call that is open is in flight. -/
  isOpen : ∀ {u : String} {c : Nat} {st : CallState}, p.coalescing = true →
    p.calls[c]? = some ⟨u, st⟩ → st.IsOpen → p.inFlight? u = some c

theorem linked_ofCache (coalescing : Bool) (cache : Cache) : (ofCache coalescing cache).Linked := by
  constructor <;> simp [ofCache, inFlight?]

/-! ### Steps that leave a call as it is -/

/-- A step that is nothing to a call. -/
theorem calls_step_of_not (hk : p.calls[c]? = some ⟨v, st⟩)
    (h : ∀ st', ¬ Proceeds p c s st st') : (p.step s).calls[c]? = some ⟨v, st⟩ := by
  obtain ⟨st', hst, rfl | e⟩ := calls_step hk s
  · exact hst
  · exact absurd e (h st')

theorem calls_step_ask (hk : p.calls[c]? = some ⟨v, st⟩) (l : Nat) :
    (p.step (.ask l)).calls[c]? = some ⟨v, st⟩ := by
  apply calls_step_of_not hk
  rintro st' (_ | hs | _ | hs | hs | _)
  · rcases hs with hs | ⟨_, hs⟩ <;> cases hs
  · rcases hs with hs | hs <;> cases hs
  · rcases hs with hs | hs <;> cases hs

/-- Once a call has ended it stays as it is. -/
theorem calls_step_ended {o : Outcome} (hk : p.calls[c]? = some ⟨v, .ended o⟩) (s : Step) :
    (p.step s).calls[c]? = some ⟨v, .ended o⟩ :=
  calls_step_of_not hk fun _ e => by cases e

/-- The lookup whose caller gives up waits no longer. -/
theorem abandon_of_waiting (hl : p.lookups[l]? = some ⟨u, .waiting c⟩) :
    (p.step (.abandon l)).lookups[l]? = some ⟨u, .abandoned⟩ := by
  have hleft : (p.setPhase l .abandoned).lookups[l]? = some ⟨u, .abandoned⟩ := by
    simp [getElem?_setPhase, hl]
  simp only [step, abandon, hl]
  split
  · exact hleft
  · split
    · exact hleft
    · exact hleft

/-! ### Each step keeps the links -/

namespace Linked

/-- A call that a lookup still waits for is not dropped. -/
theorem not_dropped (h : p.Linked) (hk : p.calls[c]? = some ⟨v, st⟩) (hst : st ≠ .dropped)
    (keep : p.coalescing = true ∨ ∃ (l : Nat) (u : String),
      p.lookups[l]? = some ⟨u, .waiting c⟩ ∧ (p.step s).lookups[l]? = some ⟨u, .waiting c⟩) :
    ∃ st', (p.step s).calls[c]? = some ⟨v, st'⟩ ∧ st' ≠ .dropped := by
  obtain ⟨st', hst', same | e⟩ := calls_step hk s
  · exact ⟨st', hst', same ▸ hst⟩
  · refine ⟨st', hst', ?_⟩
    rintro rfl
    cases e with
    -- The lookup that drops the call is the only one that waited for it.
    | @dropped k w alone hl =>
      rcases keep with shared | ⟨l, u, hwait, hstill⟩
      · simp [alone] at shared
      · cases h.sole alone hl hwait
        rw [abandon_of_waiting hl] at hstill
        cases hstill

theorem waiting_step (h : p.Linked) (hk : (p.step s).lookups[l]? = some ⟨u, .waiting c⟩) :
    ∃ st, (p.step s).calls[c]? = some ⟨u, st⟩ ∧ st ≠ .dropped := by
  rcases lookups_of_step hk with ⟨ph, hph, rfl | m⟩ | ⟨-, hnew, -⟩
  · obtain ⟨st, hc, hst⟩ := h.waiting hph
    exact h.not_dropped hc hst (.inr ⟨l, u, hph, hk⟩)
  · cases m with
    | join hj =>
      have hin : p.inFlight? u = some c := by
        unfold joined? at hj
        split at hj
        · exact hj
        · cases hj
      obtain ⟨-, st, hc, hst⟩ := h.inFlight hin
      exact ⟨st, calls_step_ask hc l, hst⟩
    | call hj => exact ⟨.running, (made_step hph hj).1, by simp⟩
  · cases hnew

theorem sole_step (h : p.Linked) (alone : (p.step s).coalescing = false)
    (hl : (p.step s).lookups[l]? = some ⟨u, .waiting c⟩)
    (hk : (p.step s).lookups[k]? = some ⟨v, .waiting c⟩) : l = k := by
  rw [coalescing_step] at alone
  -- A lookup that begins to wait does so for a call that nobody has waited for.
  have begins {l : Nat} {u : String} (hl : (p.step s).lookups[l]? = some ⟨u, .waiting c⟩) :
      p.lookups[l]? = some ⟨u, .waiting c⟩ ∨ (c = p.calls.length ∧ s = .ask l) := by
    rcases lookups_of_step hl with ⟨ph, hph, rfl | m⟩ | ⟨-, hnew, -⟩
    · exact .inl hph
    · cases m with
      | join hj => simp [joined?, alone] at hj
      | call hj => exact .inr ⟨rfl, rfl⟩
    · cases hnew
  have known {l : Nat} {u : String} (hl : p.lookups[l]? = some ⟨u, .waiting c⟩) :
      c < p.calls.length := by
    obtain ⟨st, hc, -⟩ := h.waiting hl
    exact (List.getElem?_eq_some_iff.1 hc).1
  rcases begins hl with hl | ⟨hc, hs⟩ <;> rcases begins hk with hk | ⟨hd, hs'⟩
  · exact h.sole alone hl hk
  · exact absurd (known hl) (by omega)
  · exact absurd (known hk) (by omega)
  · rw [hs] at hs'
    cases hs'
    rfl

theorem storing_step (h : p.Linked) {e : Entry}
    (hk : (p.step s).lookups[l]? = some ⟨u, .storing c e⟩) :
    e.user = u ∧ (p.step s).calls[c]? = some ⟨u, .ended (.roles e.roles)⟩ := by
  rcases lookups_of_step hk with ⟨ph, hph, rfl | m⟩ | ⟨-, hnew, -⟩
  · exact ⟨(h.storing hph).1, calls_step_ended (h.storing hph).2 s⟩
  · cases m with
    | write hc =>
      obtain ⟨w, hw⟩ := callState?_eq_some.1 hc
      obtain ⟨st, hu, -⟩ := h.waiting hph
      rw [hw] at hu
      cases hu
      exact ⟨rfl, calls_step_ended hw _⟩
  · cases hnew

theorem inFlight_step (h : p.Linked) (hin : (p.step s).inFlight? u = some c) :
    (p.step s).coalescing = true ∧
      ∃ st, (p.step s).calls[c]? = some ⟨u, st⟩ ∧ st ≠ .dropped := by
  rw [coalescing_step]
  rcases inFlight?_of_step hin with hold | ⟨rfl, shared, l, rfl, hl, hj⟩
  · obtain ⟨shared, st, hc, hst⟩ := h.inFlight hold
    exact ⟨shared, h.not_dropped hc hst (.inl shared)⟩
  · exact ⟨shared, .running, (made_step hl hj).1, by simp⟩

theorem isOpen_step (h : p.Linked) (shared : (p.step s).coalescing = true)
    (hk : (p.step s).calls[c]? = some ⟨u, st⟩) (hst : st.IsOpen) :
    (p.step s).inFlight? u = some c := by
  rw [coalescing_step] at shared
  rcases calls_of_step hk with ⟨st', hc, hopen⟩ | ⟨rfl, rfl, l, rfl, hl, hj⟩
  · have hbefore : st'.IsOpen := by
      rcases hopen with rfl | e
      · exact hst
      · cases e with
        | answer | finish | burst | alone | dropped => trivial
        | withdraw => trivial
    have hin := h.isOpen shared hc hbefore
    rcases inFlight?_step hin s with hstill | ⟨d, st'', o, hd, hdopen, hend⟩
    · exact hstill
    · -- The call of this user that ends would be this one.
      have hsame := h.isOpen shared hd hdopen
      rw [hin] at hsame
      cases hsame
      rw [hend] at hk
      cases hk
      cases hst
  · exact (made_step hl hj).2 shared

theorem step (h : p.Linked) (s : Step) : (p.step s).Linked where
  waiting := h.waiting_step
  sole := h.sole_step
  storing := h.storing_step
  inFlight := h.inFlight_step
  isOpen := h.isOpen_step

theorem run (h : p.Linked) (ss : List Step) : (p.run ss).Linked :=
  run_induction (fun _ s _ h => h.step s) h

end Linked

end Provider
end RoleLookup
