import Mathlib.Data.List.Induction
import RoleLookup.Proofs.Provider.Links

/-!
# The provenance of roles

Roles of a user come into a run when the directory answers a call made for the user, or when they
are put into the cache for the user. A lookup of the user returns one of these sets and nothing
else.

* `Step.Brings`, a step in which roles of a user come in, and `Brought`, a run with such a step;
* `Sourced`, all roles that calls, regions and lookups have for a user are of some kind;
* `Sourced.step`, each step keeps this if the roles that come in with it are of that kind;
* `sourced_run`, in every run they have been brought for that user.
-/

namespace RoleLookup
namespace Provider

/-- Roles of a user come in with a step: the answer of the directory to a call that was made for the
user, or roles that are put into the cache. -/
inductive Step.Brings (p : Provider) (user : String) (roles : RoleSet) : Step → Prop
  | answer {c : Nat} (hc : p.calls[c]? = some ⟨user, .running⟩) :
      Brings p user roles (.answer c (.roles roles))
  | finish {c : Nat} (hc : p.calls[c]? = some ⟨user, .running⟩) :
      Brings p user roles (.finish c (.roles roles))
  | put : Brings p user roles (.put user roles)

/-- Roles of a user have come in with a step of a run. -/
def Brought (p : Provider) (ss : List Step) (user : String) (roles : RoleSet) : Prop :=
  ∃ before s after, ss = before ++ s :: after ∧ s.Brings (p.run before) user roles

/-- The directory has answered with roles, whether or not those who wait see it yet. -/
def CallState.Gives (roles : RoleSet) : CallState → Prop
  | .answered o | .ended o => o = .roles roles
  | _ => False

/-- All roles of users are of some kind. -/
structure Sourced (p : Provider) (known : String → RoleSet → Prop) : Prop where
  /-- Those that a call of the user was answered with. -/
  given : ∀ {c : Nat} {u : String} {st : CallState} {roles : RoleSet},
    p.calls[c]? = some ⟨u, st⟩ → st.Gives roles → known u roles
  /-- Those that a region holds for the user. -/
  held : ∀ {t : Tier} {u : String} {e : Entry},
    (p.cache.region t).find? u = some e → known u e.roles
  /-- Those that a lookup of the user has returned. -/
  returned : ∀ {l : Nat} {u : String} {roles : RoleSet},
    p.lookups[l]? = some ⟨u, .finished (.roles roles)⟩ → known u roles

variable {p : Provider} {s : Step} {ss : List Step} {l c : Nat} {u v : String} {roles : RoleSet}
  {known : String → RoleSet → Prop}

theorem Brought.append (h : p.Brought ss u roles) (ts : List Step) :
    p.Brought (ss ++ ts) u roles := by
  obtain ⟨before, s, after, rfl, hs⟩ := h
  exact ⟨before, s, after ++ ts, by simp, hs⟩

theorem Step.Brings.brought (h : s.Brings (p.run ss) u roles) : p.Brought (ss ++ [s]) u roles :=
  ⟨ss, s, [], rfl, h⟩

theorem Linked.callOf (h : p.Linked) {st : CallState} (hl : p.lookups[l]? = some ⟨u, .waiting c⟩)
    (hc : p.callState? c = some st) : p.calls[c]? = some ⟨u, st⟩ := by
  obtain ⟨v, hv⟩ := callState?_eq_some.1 hc
  obtain ⟨st', hu, -⟩ := h.waiting hl
  rw [hv] at hu
  cases hu
  exact hv

/-! ### Each step keeps the sources -/

namespace Sourced

variable (h : p.Sourced known) (linked : p.Linked)
  (brings : ∀ {u roles}, s.Brings p u roles → known u roles)

include h brings in
theorem given_step {st : CallState} (hk : (p.step s).calls[c]? = some ⟨u, st⟩)
    (hst : st.Gives roles) : known u roles := by
  rcases calls_of_step hk with ⟨st', hc, rfl | e⟩ | ⟨-, rfl, -⟩
  · exact h.given hc hst
  · cases e with
    | answer =>
      cases hst
      exact brings (.answer hc)
    | withdraw => exact h.given hc hst
    | finish =>
      cases hst
      exact brings (.finish hc)
    -- What is seen of a crash is a failure.
    | @burst _ o _ _ ho =>
      cases o with
      | crashed => cases hst
      | roles | failed => cases ho
    | alone hs =>
      cases hst
      rcases hs with rfl | rfl
      · exact brings (.answer hc)
      · exact brings (.finish hc)
    | dropped => cases hst
  · cases hst

include h in
/-- A region that an entry is written into has only known roles if the entry has. -/
theorem held_insert {r : Region} {t : Tier} {e x : Entry} (hr : r = p.cache.region t)
    (he : known e.user e.roles) (hx : (r.insert e).find? u = some x) : known u x.roles := by
  subst hr
  rcases Region.find?_insert_cases hx with ⟨rfl, rfl⟩ | ⟨-, hold⟩
  · exact he
  · exact h.held hold

include h linked brings in
theorem held_step {t : Tier} {e : Entry} (he : ((p.step s).cache.region t).find? u = some e) :
    known u e.roles := by
  have w := cache_step p s
  have hstep := he
  generalize (p.step s).cache = c' at w he
  cases w with
  | keep => exact h.held he
  | @primary _ v _ roles hl hc =>
    have hknown : known v roles := h.given (linked.callOf hl hc) rfl
    rw [Cache.region_insert] at he
    split at he
    · exact h.held_insert rfl hknown he
    · exact h.held he
  | fallback hs hl =>
    rw [Cache.region_insert] at he
    split at he
    · obtain ⟨hu, hc⟩ := linked.storing hl
      exact h.held_insert rfl (hu ▸ h.given hc rfl) he
    · exact h.held he
  | @both _ v _ roles hl hc =>
    have hknown : known v roles := h.given (linked.callOf hl hc) rfl
    rw [Cache.region_put] at he
    exact h.held_insert rfl hknown he
  | put v roles =>
    rw [Cache.region_put] at he
    exact h.held_insert rfl (brings .put) he
  | erase | clear | invalidate | invalidateAll =>
    exact h.held (find?_of_step hstep (by simp) rfl)

include h linked in
theorem returned_step (hk : (p.step s).lookups[l]? = some ⟨u, .finished (.roles roles)⟩) :
    known u roles := by
  rcases lookups_of_step hk with ⟨ph, hph, rfl | m⟩ | ⟨-, hnew, -⟩
  · exact h.returned hph
  · cases m with
    | hit hc =>
      obtain ⟨e, he, rfl⟩ := Cache.find?_of_get? hc
      exact h.held he
    | store => exact h.given (linked.storing hph).2 rfl
    | resume hc => exact h.given (linked.callOf hph hc) rfl
    | fallBack _ _ hf =>
      obtain ⟨e, he, rfl⟩ := Cache.find?_of_getFromFallback? hf
      exact h.held he
  · cases hnew

include h linked brings in
theorem step : (p.step s).Sourced known where
  given := h.given_step brings
  held := h.held_step linked brings
  returned := h.returned_step linked

include h in
theorem mono {known' : String → RoleSet → Prop} (hk : ∀ {u roles}, known u roles → known' u roles) :
    p.Sourced known' where
  given hc hst := hk (h.given hc hst)
  held he := hk (h.held he)
  returned hl := hk (h.returned hl)

end Sourced

theorem sourced_ofCache {settings : CacheSettings} {cache : Cache}
    (built : settings.build = .ok cache) (coalescing : Bool) :
    (ofCache coalescing cache).Sourced known := by
  unfold CacheSettings.build at built
  split at built
  · cases built
  · cases built
    constructor
    · simp [ofCache]
    · intro t u e he
      cases t <;> cases he
    · simp [ofCache]

theorem sourced_run {settings : CacheSettings} {cache : Cache}
    (built : settings.build = .ok cache) (coalescing : Bool) (ss : List Step) :
    ((ofCache coalescing cache).run ss).Sourced ((ofCache coalescing cache).Brought ss) := by
  -- From the end of the run: what its last step brings is brought after the steps before it.
  induction ss using List.reverseRecOn with
  | nil => exact sourced_ofCache built coalescing
  | append_singleton ss s ih =>
    rw [run_append]
    exact (ih.mono fun hb => hb.append [s]).step ((linked_ofCache _ _).run ss) Step.Brings.brought

/-- **Roles are those of the user.** In every run, with coalescing or without, the roles that a
lookup of a user has returned are one set that the directory has given to a call made for this user
before, or that has been put into the cache for this user before. -/
theorem returned_roles_were_brought {settings : CacheSettings} {cache : Cache}
    (built : settings.build = .ok cache) (coalescing : Bool) (ss : List Step) (l : Nat)
    (user : String) (roles : RoleSet)
    (returned : ((ofCache coalescing cache).run ss).lookups[l]? =
      some ⟨user, .finished (.roles roles)⟩) :
    ∃ before s after, ss = before ++ s :: after ∧
      s.Brings ((ofCache coalescing cache).run before) user roles :=
  (sourced_run built coalescing ss).returned returned

/-- Two users whose names differ in case are looked up together, a caller gives up, and roles of
both are served after the directory has failed. -/
theorem returned_roles_were_brought_alice :
    let settings : CacheSettings := { maxEntries := 2, timeToLive := 100 }
    let cache : Cache := ⟨⟨2, some 100, []⟩, ⟨2, none, []⟩⟩
    let devs := RoleSet.ofList ["devs"]
    let ss : List Step := [.start "alice", .check 0, .ask 0, .start "Alice", .check 1, .ask 1,
      .start "alice", .check 2, .ask 2, .abandon 0, .put "Alice" (RoleSet.ofList ["ops"]),
      .finish 0 (.roles devs), .finish 1 (.failed .unavailable), .resume 1, .resume 2,
      .advance 150, .start "alice", .check 3, .ask 3, .finish 2 (.failed .unavailable), .resume 3]
    let p := (ofCache true cache).run ss
    settings.build = .ok cache ∧ p.lookups[3]? = some ⟨"alice", .finished (.roles devs)⟩ ∧
      ∃ before s after, ss = before ++ s :: after ∧
        s.Brings ((ofCache true cache).run before) "alice" devs := by
  intro settings cache devs ss p
  have built : settings.build = .ok cache := rfl
  have returned : p.lookups[3]? = some ⟨"alice", .finished (.roles devs)⟩ := by decide
  exact ⟨built, returned, returned_roles_were_brought built true ss 3 "alice" devs returned⟩

end Provider
end RoleLookup
