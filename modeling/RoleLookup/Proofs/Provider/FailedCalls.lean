import RoleLookup.Proofs.Provider.Provenance
import RoleLookup.Proofs.Provider.Sequential

/-!
# Calls that fail

A lookup writes into the cache only what its call has given, so that a call that fails leaves both
regions as they are.

* `roles_of_write`, a lookup that writes has a call that ended with roles;
* `Fails`, a call has failed, which a run does not mend by `fails_run`;
* `roles_of_lookup_write`, when nobody else acts, a lookup writes only after the directory has
  answered it with roles.
-/

namespace RoleLookup
namespace Provider

variable {p q : Provider} {s : Step} {ss : List Step} {l c : Nat} {u : String} {e : LookupError}

/-! ### Lookups that write -/

/-- The lookup that a step acts for. -/
def Step.lookup? : Step → Option Nat
  | .check l | .ask l | .receive l | .store l | .resume l | .abandon l => some l
  | _ => none

/-- The call of a lookup that is not over. -/
def call? (p : Provider) (l : Nat) : Option Nat :=
  match p.lookups[l]? with
  | some ⟨_, .waiting c⟩ | some ⟨_, .storing c _⟩ => some c
  | _ => none

/-- A lookup that writes has a call that ended with roles. -/
theorem roles_of_write (h : p.Linked) (hs : s.lookup? = some l)
    (hw : (p.step s).cache ≠ p.cache) :
    ∃ c u roles, p.call? l = some c ∧ p.calls[c]? = some ⟨u, .ended (.roles roles)⟩ := by
  have waiting {u : String} {c : Nat} {roles : RoleSet}
      (hl : p.lookups[l]? = some ⟨u, .waiting c⟩)
      (hc : p.callState? c = some (.ended (.roles roles))) :
      ∃ c u roles, p.call? l = some c ∧ p.calls[c]? = some ⟨u, .ended (.roles roles)⟩ :=
    ⟨c, u, roles, by simp [call?, hl], h.callOf hl hc⟩
  have w := cache_step p s
  generalize (p.step s).cache = cache at w hw
  cases w with
  | keep => exact absurd rfl hw
  | primary hl hc =>
    cases hs
    exact waiting hl hc
  | both hl hc =>
    cases hs
    exact waiting hl hc
  | @fallback _ m _ _ _ hstore hl =>
    obtain rfl : m = l := by
      rcases hstore with rfl | rfl <;> exact Option.some.inj hs
    exact ⟨_, _, _, by simp [call?, hl], (h.storing hl).2⟩
  | put | erase | clear | invalidate | invalidateAll => cases hs

/-! ### Calls that have failed -/

/-- A call has failed, whether or not those who wait see it yet. -/
def Fails (p : Provider) (c : Nat) (e : LookupError) : Prop :=
  ∃ u, p.calls[c]? = some ⟨u, .answered (.failed e)⟩ ∨ p.calls[c]? = some ⟨u, .ended (.failed e)⟩

theorem fails_step (h : p.Fails c e) (s : Step) : (p.step s).Fails c e := by
  obtain ⟨u, h | h⟩ := h
  · obtain ⟨st, hst, rfl | g⟩ := calls_step h s
    · exact ⟨u, .inl hst⟩
    · cases g with
      | withdraw => exact ⟨u, .inr hst⟩
  · exact ⟨u, .inr (calls_step_ended h s)⟩

theorem fails_run (h : p.Fails c e) (ss : List Step) : (p.run ss).Fails c e :=
  run_induction (P := fun q => q.Fails c e) (fun _ s _ h => fails_step h s) h

theorem fails_of_answer (hc : p.calls[c]? = some ⟨u, .running⟩)
    (hs : s = .answer c (.failed e) ∨ s = .finish c (.failed e)) : (p.step s).Fails c e := by
  have hset (st : CallState) : (p.setCall c st).calls[c]? = some ⟨u, st⟩ := by
    simp [setCall, hc]
  refine ⟨u, ?_⟩
  cases hshared : p.coalescing <;> rcases hs with rfl | rfl
  · rw [step, answer_of_alone hc hshared]
    exact .inr (hset _)
  · rw [step, finish_of_alone hc hshared]
    exact .inr (hset _)
  · rw [step, answer_of_shared hc hshared rfl]
    exact .inl (hset _)
  · rw [step, finish_of_shared hc hshared rfl]
    exact .inr (hset _)

/-! ### One lookup at a time -/

variable {δ : Type} {d : δ}

/-- Whether a step may write into the cache or take something out of it. -/
def Step.mayWrite : Step → Bool
  | .receive _ | .store _ | .resume _ => true
  | .put .. | .erase .. | .clear _ | .invalidate _ | .invalidateAll => true
  | _ => false

theorem cache_step_of_not (hs : s.mayWrite = false) : (p.step s).cache = p.cache := by
  have w := cache_step p s
  generalize (p.step s).cache = cache at w
  cases w with
  | keep => rfl
  | fallback hstore => rcases hstore with rfl | rfl <;> cases hs
  | _ => cases hs

theorem cache_launch (p : Provider) (u : String) : (p.launch u).cache = p.cache := by
  change (((p.step (.start u)).step (.check p.lookups.length)).step
    (.ask p.lookups.length)).cache = p.cache
  rw [cache_step_of_not rfl, cache_step_of_not rfl, cache_step_of_not rfl]

/-- A call that ends with roles has been answered with them. -/
theorem roles_of_finish {o : Outcome} {roles : RoleSet}
    (hc : p.calls[c]? = some ⟨u, .running⟩)
    (hroles : (p.step (.finish c o)).callState? c = some (.ended (.roles roles))) :
    o = .roles roles := by
  have hset (st : CallState) : (p.setCall c st).callState? c = some st := by
    simp [callState?, setCall, hc]
  rw [step] at hroles
  cases hshared : p.coalescing with
  | false =>
    rw [finish_of_alone hc hshared, hset] at hroles
    simpa using hroles
  | true =>
    cases ho : o.isCrash with
    | false =>
      rw [finish_of_shared hc hshared ho] at hroles
      change (p.setCall c _).callState? c = _ at hroles
      rw [hset] at hroles
      simpa using hroles
    -- What is seen of a crash is a failure.
    | true =>
      rw [finish_of_crash hc hshared ho, hset] at hroles
      cases o with
      | roles | failed => cases ho
      | crashed => cases hroles

theorem complete_of_running (directory : Directory δ) (hc : p.calls[c]? = some ⟨u, .running⟩) :
    ∃ q : Provider, p.complete directory c d =
        (q.step (.finish c (directory u d).2.outcome), (directory u d).1) ∧
      q.cache = p.cache ∧ q.lookups = p.lookups ∧ q.calls = p.calls := by
  simp only [complete, hc, run_cons, run_nil]
  exact ⟨_, rfl, rfl, rfl, rfl⟩

/-- A call that ends makes no lookup go on. -/
theorem waiting_of_finish {o : Outcome} (hl : p.lookups[l]? = some ⟨u, .waiting c⟩) :
    (p.step (.finish c o)).lookups[l]? = some ⟨u, .waiting c⟩ := by
  obtain ⟨phase, hphase, rfl | m⟩ := lookups_step hl (.finish c o)
  · exact hphase
  · cases m with
    | fallBack hs | fail hs | crash hs => rcases hs with hs | hs <;> cases hs

theorem roles_of_resume_write (hl : p.lookups[l]? = some ⟨u, .waiting c⟩)
    (hw : (p.step (.resume l)).cache ≠ p.cache) :
    ∃ roles, p.callState? c = some (.ended (.roles roles)) := by
  have w := cache_step p (.resume l)
  generalize (p.step (.resume l)).cache = cache at w hw
  cases w with
  | keep => exact absurd rfl hw
  | fallback hs hk =>
    rcases hs with hs | hs
    · cases hs
    · cases hs
      rw [hl] at hk
      cases hk
  | both hk hroles =>
    rw [hl] at hk
    cases hk
    exact ⟨_, hroles⟩

/-- When nobody else acts, a lookup writes only after the directory has answered it with roles. -/
theorem roles_of_lookup_write (directory : Directory δ) (unshared : p.joined? u = none)
    (hw : (p.lookup directory u d).1.cache ≠ p.cache) :
    ∃ roles, (directory u d).2.outcome = .roles roles := by
  cases hc : p.cache.get? p.now u with
  | some roles =>
    obtain ⟨q, hq, hview⟩ := lookup_of_hit directory (d := d) hc
    rw [hq] at hw
    exact absurd (congrArg View.cache hview) hw
  | none =>
    obtain ⟨-, hwait, hcall⟩ := launch_of_miss unshared hc
    have hawaited : (p.launch u).awaited? p.lookups.length = some p.calls.length := by
      simp [awaited?, hwait]
    obtain ⟨q, hcomplete, hcache, hlookups, hcalls⟩ :=
      complete_of_running directory (d := d) hcall
    rw [← hlookups] at hwait
    rw [← hcalls] at hcall
    simp only [lookup, hawaited, hcomplete] at hw
    have hkept : (q.step (.finish p.calls.length (directory u d).2.outcome)).cache = p.cache :=
      (cache_step_of_not rfl).trans (hcache.trans (cache_launch p u))
    rw [← hkept] at hw
    obtain ⟨roles, hroles⟩ := roles_of_resume_write (waiting_of_finish hwait) hw
    exact ⟨roles, roles_of_finish hcall hroles⟩

end Provider
end RoleLookup
