import Mathlib.Data.List.Induction
import RoleLookup.Proofs.Provider.Links

/-!
# Lookups while the directory fails

Once a lookup of a user has returned roles, and as long as the user is not invalidated, all later
lookups of the user return roles, whatever the directory answers. The one exception are roles that
have overtaken an invalidation: they were written after it had passed the primary region and before
it reached the fallback region, so that the latter does not hold them.

* `Orderly`, the steps that this is about: writes are whole and drop no entry;
* `Steady`, the invariant: no lookup is between its two writes, and none sees a crash;
* `Mirrored`, what the primary region holds for the user, the fallback region holds too, and
  `Overtaken`, the runs after which it may not, with `mirrored_or_overtaken`;
* `Backed`, the fallback region holds roles of the user;
* `return_roles_unless_overtaken`, and `overtaken_invalidation_loses_roles`, a run in which a lookup
  returns such roles and a later one fails.
-/

namespace RoleLookup
namespace Provider

/-- The user whose roles a step writes into both regions. -/
def written? (p : Provider) : Step → Option String
  | .put user _ => some user
  | .resume l =>
    match p.lookups[l]? with
    | some ⟨user, .waiting c⟩ =>
      match p.callState? c with
      | some (.ended (.roles _)) => some user
      | _ => none
    | _ => none
  | _ => none

/-- Whether a step writes roles into one region only. -/
def Step.isHalfWrite : Step → Bool
  | .receive _ | .store _ => true
  | _ => false

/-- Whether a call crashes in a step. -/
def Step.isCrash : Step → Bool
  | .answer _ o | .finish _ o => o.isCrash
  | _ => false

/-- What is asked of a step. -/
structure Orderly (p : Provider) (s : Step) : Prop where
  /-- Roles are written into both regions in one step. -/
  whole : s.isHalfWrite = false
  /-- A write drops no entry. -/
  room : ∀ v ∈ p.written? s, p.cache.HasRoomFor v
  /-- Only shared calls crash. -/
  sound : p.coalescing = true ∨ s.isCrash = false

instance (p : Provider) (s : Step) : Decidable (p.Orderly s) :=
  decidable_of_iff (s.isHalfWrite = false ∧ (∀ v ∈ p.written? s, p.cache.HasRoomFor v) ∧
      (p.coalescing = true ∨ s.isCrash = false))
    ⟨fun ⟨hw, hr, hs⟩ => ⟨hw, hr, hs⟩, fun h => ⟨h.whole, h.room, h.sound⟩⟩

/-- What orderly steps keep. -/
structure Steady (p : Provider) : Prop where
  linked : p.Linked
  ageless : (p.cache.region .fallback).lifetime = none
  /-- No lookup is between its two writes. -/
  whole : ∀ (l c : Nat) (v : String) (e : Entry), p.lookups[l]? ≠ some ⟨v, .storing c e⟩
  /-- No lookup sees a crash. -/
  sound : ∀ (c : Nat) (v : String) (o : Outcome),
    p.calls[c]? = some ⟨v, .answered o⟩ ∨ p.calls[c]? = some ⟨v, .ended o⟩ → o.isCrash = false

/-- What the primary region holds for the user, the fallback region holds too. -/
def Mirrored (p : Provider) (user : String) : Prop :=
  ∀ e, (p.cache.region .primary).find? user = some e →
    ∃ e', (p.cache.region .fallback).find? user = some e'

/-- The fallback region holds roles of the user. -/
def Backed (p : Provider) (user : String) : Prop :=
  ∃ e, (p.cache.region .fallback).find? user = some e

/-- A step writes no roles of the user into both regions. -/
def Spares (user : String) (p : Provider) (s : Step) : Prop := p.written? s ≠ some user

/-- In a run, roles of a user overtake an invalidation of the user. It reaches the fallback region
alone while the primary region holds roles that were written after any invalidation had passed
there, so between the two halves of this one. No roles of the user are written since. -/
inductive Overtaken (user : String) (p : Provider) : List Step → Prop
  | mk {before after : List Step} {half : Step} {e : Entry}
      (reaches : half.Forgets .fallback user) (passes : ¬ half.Forgets .primary user)
      (held : ((p.run before).cache.region .primary).find? user = some e)
      (between : ∀ xs first ys, before = xs ++ first :: ys → first.Forgets .primary user →
        ¬ Along (Spares user) (p.run (xs ++ [first])) ys)
      (since : Along (Spares user) (p.run (before ++ [half])) after) :
      Overtaken user p (before ++ half :: after)

/-- In a run, a lookup of the user finds roles in the primary region. -/
def Hits (l : Nat) (user : String) (roles : RoleSet) (p : Provider) (ss : List Step) : Prop :=
  ∃ before after, ss = before ++ .check l :: after ∧
    (p.run before).lookups[l]? = some ⟨user, .started⟩ ∧
    (p.run before).cache.get? (p.run before).now user = some roles

variable {p : Provider} {s : Step} {ss : List Step} {l c m : Nat} {user u v : String}

theorem steady_ofCache {settings : CacheSettings} {cache : Cache}
    (built : settings.build = .ok cache) (coalescing : Bool) :
    (ofCache coalescing cache).Steady := by
  unfold CacheSettings.build at built
  split at built
  · cases built
  · cases built
    exact ⟨linked_ofCache _ _, rfl, by simp [ofCache], by simp [ofCache]⟩

theorem mirrored_ofCache {settings : CacheSettings} {cache : Cache}
    (built : settings.build = .ok cache) (coalescing : Bool) (user : String) :
    (ofCache coalescing cache).Mirrored user := by
  unfold CacheSettings.build at built
  split at built
  · cases built
  · cases built
    simp [Mirrored, ofCache, Cache.region, Region.find?]

namespace Orderly

theorem not_receive (hs : p.Orderly (.receive l)) : False := by
  cases hs.whole

theorem room_of_resume (hs : p.Orderly (.resume l)) {roles : RoleSet}
    (hl : p.lookups[l]? = some ⟨v, .waiting c⟩)
    (hc : p.callState? c = some (.ended (.roles roles))) : p.cache.HasRoomFor v :=
  hs.room v (by simp [written?, hl, hc])

theorem room_of_put {roles : RoleSet} (hs : p.Orderly (.put v roles)) : p.cache.HasRoomFor v :=
  hs.room v rfl

end Orderly

/-! ### The regions -/

/-- A step that writes roles of the user leaves an entry of the user in both regions. -/
theorem find?_of_written (hs : p.Orderly s) (hw : p.written? s = some user) :
    ∃ e, ∀ t, ((p.step s).cache.region t).find? user = some e := by
  cases s with
  | put v roles =>
    obtain rfl : v = user := Option.some.inj hw
    exact ⟨_, fun t => (Cache.find?_put hs.room_of_put _ _ _ _).trans (if_pos rfl)⟩
  | resume l =>
    simp only [written?] at hw
    split at hw
    · rename_i v c hl
      split at hw
      · rename_i roles hc
        cases hw
        rw [resume_of_roles hl hc]
        exact ⟨_, fun t => (Cache.find?_put (hs.room_of_resume hl hc) _ _ _ _).trans (if_pos rfl)⟩
      · cases hw
    · cases hw
  | _ => cases hw

/-- An orderly step that writes none leaves in each region what it held for the user, unless it
makes the region forget the user. -/
theorem find?_of_spares (h : p.Steady) (hs : p.Orderly s) (spared : Spares user p s) (t : Tier) :
    ((p.step s).cache.region t).find? user =
      if s.Forgets t user then none else (p.cache.region t).find? user := by
  split
  · rename_i hf
    exact find?_of_forgets hf
  · rename_i hf
    have w := cache_step p s
    generalize (p.step s).cache = c' at w
    cases w with
    | keep => rfl
    | primary => exact hs.not_receive.elim
    | fallback _ hl => exact absurd hl (h.whole _ _ _ _)
    | @both l v c roles hl hc =>
      have hv : v ≠ user := by
        rintro rfl
        exact spared (by simp [written?, hl, hc])
      rw [Cache.find?_put (hs.room_of_resume hl hc), if_neg hv]
    | put v roles =>
      have hv : v ≠ user := by
        rintro rfl
        exact spared rfl
      rw [Cache.find?_put hs.room_of_put, if_neg hv]
    | erase t' v =>
      rw [Cache.region_erase]
      split
      · rename_i ht
        rw [Region.find?_erase, if_neg fun hv => hf ⟨ht.symm, hv⟩]
      · rfl
    | clear t' => rw [Cache.region_clear, if_neg fun ht => hf ht.symm]
    | invalidate v =>
      have hv : v ≠ user := hf
      rw [Cache.region_invalidate, Region.find?_erase, if_neg hv]
    | invalidateAll => exact absurd trivial hf

theorem Backed.step (hb : p.Backed user) (h : p.Steady) (hs : p.Orderly s)
    (kept : ¬ s.Forgets .fallback user) : (p.step s).Backed user := by
  by_cases hw : p.written? s = some user
  · obtain ⟨e, he⟩ := find?_of_written hs hw
    exact ⟨e, he .fallback⟩
  · obtain ⟨e, he⟩ := hb
    exact ⟨e, by rw [find?_of_spares h hs hw, if_neg kept, he]⟩

/-! ### Lookups and calls -/

theorem whole_step (h : p.Steady) (hs : p.Orderly s) (l c : Nat) (v : String)
    (e : Entry) : (p.step s).lookups[l]? ≠ some ⟨v, .storing c e⟩ := by
  intro hl
  rcases lookups_of_step hl with ⟨ph, hph, rfl | m⟩ | ⟨-, hnew, -⟩
  · exact h.whole l c v e hph
  · cases m with
    | write => exact hs.not_receive
  · cases hnew

theorem isCrash_reported (c : Nat) (o : Outcome) : (reported c o).isCrash = false := by
  cases o <;> rfl

theorem sound_step (h : p.Steady) (hs : p.Orderly s) (c : Nat) (v : String)
    (o : Outcome) (hc : (p.step s).calls[c]? = some ⟨v, .answered o⟩ ∨
      (p.step s).calls[c]? = some ⟨v, .ended o⟩) : o.isCrash = false := by
  rcases hc with hc | hc
  · rcases calls_of_step hc with ⟨st, hst, rfl | e⟩ | ⟨-, hnew, -⟩
    · exact h.sound c v o (.inl hst)
    · cases e with
      | answer _ ho => exact ho
    · cases hnew
  · rcases calls_of_step hc with ⟨st, hst, rfl | e⟩ | ⟨-, hnew, -⟩
    · exact h.sound c v o (.inr hst)
    · cases e with
      | withdraw => exact h.sound c v o (.inl hst)
      | finish _ ho => exact ho
      | burst => exact isCrash_reported c _
      | alone hs' alone =>
        have hcrash : p.coalescing = true ∨ o.isCrash = false := by
          rcases hs' with rfl | rfl
          · exact hs.sound
          · exact hs.sound
        exact hcrash.resolve_left (by simp [alone])
    · cases hnew

theorem Steady.step (h : p.Steady) (hs : p.Orderly s) : (p.step s).Steady where
  linked := h.linked.step s
  ageless := by rw [lifetime_step, h.ageless]
  whole := whole_step h hs
  sound := sound_step h hs

theorem Steady.getFromFallback? (h : p.Steady) (hb : p.Backed user) :
    ∃ roles, p.cache.getFromFallback? p.now user = some roles := by
  obtain ⟨e, he⟩ := hb
  refine ⟨e.roles, ?_⟩
  have hget : p.cache.fallback.get? p.now user = p.cache.fallback.find? user :=
    Region.get?_of_ageless h.ageless _ _
  have hfind : p.cache.fallback.find? user = some e := he
  rw [Cache.getFromFallback?, hget, hfind]
  rfl

/-- While the user is backed, a lookup of the user that is over has returned roles. -/
theorem roles_of_returned (h : p.Steady) (hb : p.Backed user) {o : Outcome} {phase : Phase}
    (m : Moves p l user s phase (.finished o)) : ∃ roles, o = .roles roles := by
  cases m with
  | hit | store | resume | fallBack => exact ⟨_, rfl⟩
  | fail _ _ hf =>
    obtain ⟨roles, hroles⟩ := h.getFromFallback? hb
    rw [hf] at hroles
    cases hroles
  | crash _ hc =>
    obtain ⟨v, hv⟩ := callState?_eq_some.1 hc
    cases h.sound _ v _ (.inr hv)

/-! ### Runs -/

theorem steady_run (h : p.Steady) (orderly : Along Orderly p ss) : (p.run ss).Steady :=
  orderly.induction (P := Steady) (fun _ _ _ hs h => h.step hs) h

/-- A region that held nothing for the user, and does now, has been written into. -/
theorem not_along_spares (h : p.Steady) (orderly : Along Orderly p ss) {t : Tier} {e : Entry}
    (before : (p.cache.region t).find? user = none)
    (after : ((p.run ss).cache.region t).find? user = some e) : ¬ Along (Spares user) p ss := by
  induction ss generalizing p with
  | nil =>
    rw [run_nil, before] at after
    cases after
  | cons s ss ih =>
    obtain ⟨hs, hss⟩ := orderly
    rintro ⟨spared, hspared⟩
    refine ih (h.step hs) hss ?_ after hspared
    rw [find?_of_spares h hs spared, before, ite_self]

theorem Overtaken.concat (h : Overtaken user p ss) (spared : Spares user (p.run ss) s) :
    Overtaken user p (ss ++ [s]) := by
  cases h with
  | @mk before after half e reaches passes held between since =>
    have hrun : (p.run (before ++ [half])).run after = p.run (before ++ half :: after) := by
      rw [← run_append, List.append_assoc, List.singleton_append]
    rw [List.append_assoc, List.cons_append]
    exact .mk reaches passes held between
      (Along.append.2 ⟨since, by rwa [Spares, hrun], trivial⟩)

theorem Overtaken.exists_half (h : Overtaken user p ss) :
    ∃ s ∈ ss, s.Forgets .fallback user ∧ ¬ s.Forgets .primary user := by
  cases h with
  | mk reaches passes => exact ⟨_, by simp, reaches, passes⟩

/-- An invalidation reaches the fallback region alone while the primary region holds roles of the
user. -/
theorem overtaken_of_held (h : p.Steady) (orderly : Along Orderly p ss) {e : Entry}
    (held : ((p.run ss).cache.region .primary).find? user = some e)
    (reaches : s.Forgets .fallback user) (passes : ¬ s.Forgets .primary user) :
    Overtaken user p (ss ++ [s]) := by
  refine .mk reaches passes held ?_ trivial
  rintro xs first ys rfl hfirst
  obtain ⟨hxs, hs, hys⟩ := Along.append.1 orderly
  have hnone : ((p.run (xs ++ [first])).cache.region .primary).find? user = none := by
    rw [run_append]
    exact find?_of_forgets hfirst
  refine not_along_spares ?_ ?_ hnone (e := e) ?_
  · rw [run_append]
    exact (steady_run h hxs).step hs
  · rwa [run_append]
  · rwa [← run_append, List.append_assoc, List.singleton_append]

/-- Unless an invalidation is overtaken, what the primary region holds for the user, the fallback
region holds too. -/
theorem mirrored_or_overtaken (h : p.Steady) (mirrored : p.Mirrored user)
    (orderly : Along Orderly p ss) : (p.run ss).Mirrored user ∨ Overtaken user p ss := by
  induction ss using List.reverseRecOn with
  | nil => exact .inl mirrored
  | append_singleton ss s ih =>
    obtain ⟨hss, hs, -⟩ := Along.append.1 orderly
    have hq := steady_run h hss
    rw [run_append, run_cons, run_nil]
    by_cases hw : (p.run ss).written? s = some user
    · obtain ⟨e, he⟩ := find?_of_written hs hw
      exact .inl fun _ _ => ⟨e, he .fallback⟩
    rcases ih hss with hm | ho
    · -- Only a half of an invalidation forgets in one region and not in the other.
      by_cases half : (s.Forgets .fallback user ∧ ¬ s.Forgets .primary user) ∧
          ∃ e, ((p.run ss).cache.region .primary).find? user = some e
      · obtain ⟨⟨reaches, passes⟩, e, held⟩ := half
        exact .inr (overtaken_of_held h hss held reaches passes)
      · refine .inl fun e he => ?_
        rw [find?_of_spares hq hs hw] at he ⊢
        split at he
        · cases he
        · rename_i passes
          rw [if_neg fun reaches => half ⟨⟨reaches, passes⟩, e, he⟩]
          exact hm e he
    · exact .inr (ho.concat hw)

/-- A lookup that returns roles leaves the user backed, unless it has found them in the primary
region after they had overtaken an invalidation. -/
theorem backed_or_overtaken {before : List Step} (h : p.Steady) (mirrored : p.Mirrored user)
    (orderly : Along Orderly p (before ++ ss)) (kept : ∀ s ∈ ss, ¬ s.Forgets .fallback user)
    (started : (p.run before).lookups[l]? = some ⟨user, .started⟩) {roles : RoleSet}
    (hl : ((p.run before).run ss).lookups[l]? = some ⟨user, .finished (.roles roles)⟩) :
    ((p.run before).run ss).Backed user ∨
      Hits l user roles (p.run before) ss ∧ Overtaken user p (before ++ ss) := by
  induction ss using List.reverseRecOn with
  | nil =>
    rw [run_nil, started] at hl
    cases hl
  | append_singleton ss s ih =>
    rw [← List.append_assoc] at orderly ⊢
    obtain ⟨hss, hs, -⟩ := Along.append.1 orderly
    have hq : ((p.run before).run ss).Steady := by
      rw [← run_append]
      exact steady_run h hss
    have hs : ((p.run before).run ss).Orderly s := by rwa [← run_append]
    have hkept := kept s (List.mem_append_right _ List.mem_cons_self)
    rw [run_append, run_cons, run_nil] at hl ⊢
    by_cases hw : ((p.run before).run ss).written? s = some user
    · obtain ⟨e, he⟩ := find?_of_written hs hw
      exact .inl ⟨e, he .fallback⟩
    have hspares : Spares user (p.run (before ++ ss)) s := by rwa [Spares, run_append]
    rcases lookups_of_step hl with ⟨phase, hphase, rfl | m⟩ | ⟨-, hnew, -⟩
    · rcases ih hss (fun s hs => kept s (List.mem_append_left _ hs)) hphase with hb | ⟨hits, ho⟩
      · exact .inl (hb.step hq hs hkept)
      · obtain ⟨xs, ys, rfl, hx⟩ := hits
        exact .inr ⟨⟨xs, ys ++ [s], by simp, hx⟩, ho.concat hspares⟩
    · cases m with
      | hit hc =>
        rcases mirrored_or_overtaken h mirrored hss with hm | ho
        · obtain ⟨e, he, -⟩ := Cache.find?_of_get? hc
          rw [run_append] at hm
          exact .inl (Backed.step (hm e he) hq hs hkept)
        · exact .inr ⟨⟨ss, [], rfl, hphase, hc⟩, ho.concat hspares⟩
      | store => exact absurd hphase (hq.whole _ _ _ _)
      | resume hc => exact absurd (by simp [written?, hphase, hc]) hw
      | fallBack _ _ hf =>
        obtain ⟨e, he, -⟩ := Cache.find?_of_getFromFallback? hf
        exact .inl (Backed.step ⟨e, he⟩ hq hs hkept)
    · cases hnew

/-- While the user is backed, the lookups of the user from some number on return roles. -/
theorem roles_run (h : p.Steady) (hb : p.Backed user) (orderly : Along Orderly p ss)
    (kept : ∀ s ∈ ss, ¬ s.Forgets .fallback user) :
    (p.run ss).Backed user ∧ ∀ (l : Nat) (o : Outcome), p.lookups.length ≤ l →
      (p.run ss).lookups[l]? = some ⟨user, .finished o⟩ → ∃ roles, o = .roles roles := by
  have all := orderly.induction
    (P := fun q => q.Steady ∧ q.Backed user ∧ ∀ (l : Nat) (o : Outcome),
      p.lookups.length ≤ l → q.lookups[l]? = some ⟨user, .finished o⟩ → ∃ roles, o = .roles roles)
    (fun q s hmem hs ⟨h, hb, hroles⟩ => by
      refine ⟨h.step hs, hb.step h hs (kept s hmem), ?_⟩
      intro l o hle hl
      rcases lookups_of_step hl with ⟨ph, hph, rfl | m⟩ | ⟨-, hnew, -⟩
      · exact hroles l o hle hph
      · exact roles_of_returned h hb m
      · cases hnew)
    ⟨h, hb, fun l o hle hl => by
      have hlt := (List.getElem?_eq_some_iff.1 hl).1
      omega⟩
  exact all.2

/-! ### Lookups come to an end -/

/-- A lookup goes on to its end. If it comes to wait for a call, the directory answers the call with
some outcome, unless it has answered before. -/
def conclude (p : Provider) (l : Nat) (o : Outcome) : Provider :=
  let q := p.run [.check l, .ask l]
  match q.awaited? l with
  | none => q
  | some c => q.run [.finish c o, .resume l]

theorem ended_of_finish {st : CallState} (hc : p.calls[c]? = some ⟨v, st⟩) (hst : st ≠ .dropped)
    (o : Outcome) : ∃ o', (p.step (.finish c o)).callState? c = some (.ended o') := by
  have hset (o' : Outcome) : (p.setCall c (.ended o')).callState? c = some (.ended o') := by
    simp [callState?, setCall, hc]
  cases st with
  | running =>
    cases hs : p.coalescing with
    | false => exact ⟨o, by rw [step, finish_of_alone hc hs, hset]⟩
    | true =>
      cases ho : o.isCrash with
      | false => exact ⟨o, by rw [step, finish_of_shared hc hs ho]; exact hset o⟩
      | true => exact ⟨_, by rw [step, finish_of_crash hc hs ho, hset]⟩
  | answered o' =>
    refine ⟨o', ?_⟩
    rw [step, answer_eq_self (by simp [hc]), withdraw_of_answered hc]
    exact hset o'
  | ended o' => exact ⟨o', callState?_eq_some.2 ⟨v, calls_step_ended hc _⟩⟩
  | dropped => exact absurd rfl hst

/-- A lookup that has read the cache and asked for the directory has returned roles or waits. -/
theorem asked_or_returned {phase : Phase} (h : p.Steady)
    (hl : p.lookups[l]? = some ⟨user, phase⟩) (stays : phase ≠ .abandoned)
    (hroles : ∀ o, phase = .finished o → ∃ roles, o = .roles roles) :
    (∃ roles, (p.run [.check l, .ask l]).lookups[l]? = some ⟨user, .finished (.roles roles)⟩) ∨
      ∃ c : Nat, (p.run [.check l, .ask l]).lookups[l]? = some ⟨user, .waiting c⟩ := by
  have asks {q : Provider} (hq : q.lookups[l]? = some ⟨user, .missed⟩) :
      ∃ c : Nat, (q.ask l).lookups[l]? = some ⟨user, .waiting c⟩ := by
    cases hj : q.joined? user with
    | some c => exact ⟨c, by simp [ask_of_joined hq hj, getElem?_setPhase, hq]⟩
    | none => exact ⟨q.calls.length, by simp [ask_of_not_joined hq hj, getElem?_setPhase, hq]⟩
  have passes {q : Provider} {ph : Phase} (hq : q.lookups[l]? = some ⟨user, ph⟩)
      (hp : ph ≠ .missed) : q.ask l = q :=
    ask_eq_self fun u hu => hp (by rw [hq] at hu; cases hu; rfl)
  simp only [run_cons, run_nil, step]
  cases phase with
  | started =>
    cases hc : p.cache.get? p.now user with
    | some roles =>
      have hq : (p.check l).lookups[l]? = some ⟨user, .finished (.roles roles)⟩ := by
        simp [check_of_hit hl hc, getElem?_setPhase, hl]
      exact .inl ⟨roles, by rw [passes hq (by simp), hq]⟩
    | none =>
      have hq : (p.check l).lookups[l]? = some ⟨user, .missed⟩ := by
        simp [check_of_miss hl hc, getElem?_setPhase, hl]
      exact .inr (asks hq)
  | missed =>
    rw [check_eq_self (by simp [hl])]
    exact .inr (asks hl)
  | waiting c =>
    rw [check_eq_self (by simp [hl]), passes hl (by simp)]
    exact .inr ⟨c, hl⟩
  | storing c e => exact absurd hl (h.whole _ _ _ _)
  | finished o =>
    obtain ⟨roles, rfl⟩ := hroles o rfl
    rw [check_eq_self (by simp [hl]), passes hl (by simp)]
    exact .inl ⟨roles, hl⟩
  | abandoned => exact absurd rfl stays

/-- A lookup that waits returns roles once its call has ended. -/
theorem roles_of_resume (h : p.Steady) (hb : p.Backed user)
    (hl : p.lookups[l]? = some ⟨user, .waiting c⟩) {o : Outcome}
    (hc : p.callState? c = some (.ended o)) :
    ∃ roles, (p.step (.resume l)).outcome? l = some (.roles roles) := by
  cases o with
  | roles roles =>
    rw [resume_of_roles hl hc]
    exact ⟨roles, by simp [outcome?, getElem?_setPhase, hl]⟩
  | failed e =>
    obtain ⟨events, hq⟩ := resume_of_failed hl hc
    obtain ⟨roles, hroles⟩ := h.getFromFallback? hb
    rw [hq]
    exact ⟨roles, by simp [outcome?, getElem?_setPhase, hl, hroles]⟩
  | crashed m =>
    obtain ⟨v, hv⟩ := callState?_eq_some.1 hc
    cases h.sound _ v _ (.inr hv)

theorem conclude_returns_roles {phase : Phase} (h : p.Steady) (hb : p.Backed user)
    (hl : p.lookups[l]? = some ⟨user, phase⟩) (stays : phase ≠ .abandoned)
    (hroles : ∀ o, phase = .finished o → ∃ roles, o = .roles roles) {o : Outcome}
    (ho : p.coalescing = true ∨ o.isCrash = false) :
    ∃ roles, (p.conclude l o).outcome? l = some (.roles roles) := by
  have horderly : Along Orderly p [.check l, .ask l] :=
    ⟨⟨rfl, by simp [written?], .inr rfl⟩, ⟨rfl, by simp [written?], .inr rfl⟩, trivial⟩
  have hkept : ∀ s ∈ [Step.check l, .ask l], ¬ s.Forgets .fallback user := by
    simp [Step.Forgets]
  have hq := steady_run h horderly
  obtain ⟨hqb, -⟩ := roles_run h hb horderly hkept
  have hshare : (p.run [.check l, .ask l]).coalescing = p.coalescing := coalescing_run _ _
  have hcases := asked_or_returned h hl stays hroles
  unfold conclude
  generalize p.run [.check l, .ask l] = q at hq hqb hshare hcases
  -- If it has hit there is no call, and the lookup is over without the directory.
  rcases hcases with ⟨roles, hover⟩ | ⟨c, hwait⟩
  · exact ⟨roles, by simp [awaited?, hover, outcome?]⟩
  · have hsome : q.awaited? l = some c := by simp [awaited?, hwait]
    obtain ⟨st, hc, hst⟩ := hq.linked.waiting hwait
    obtain ⟨o', ho'⟩ := ended_of_finish hc hst o
    have hfinish : q.Orderly (.finish c o) := ⟨rfl, by simp [written?], by rwa [hshare]⟩
    have hstill : (q.step (.finish c o)).lookups[l]? = some ⟨user, .waiting c⟩ := by
      obtain ⟨ph, hph, rfl | m⟩ := lookups_step hwait (.finish c o)
      · exact hph
      · cases m with
        | fallBack hs | fail hs | crash hs => rcases hs with hs | hs <;> cases hs
    simp only [hsome, run_cons, run_nil]
    exact roles_of_resume (hq.step hfinish) (hqb.step hq hfinish id) hstill ho'

/-- **Lookups are served while the directory fails.** Once a lookup of a user has returned roles,
with the user not invalidated since it started, a lookup of the user that starts later and is not
abandoned has returned roles if it is over, and returns roles however its call is answered. This
may fail only if the first lookup has found roles in the primary region that had overtaken an
invalidation of the user. -/
theorem return_roles_unless_overtaken {coalescing : Bool} {settings : CacheSettings}
    {cache : Cache} (built : settings.build = .ok cache) {user : String}
    {before during after : List Step}
    (orderly : Along Orderly (ofCache coalescing cache)
      (before ++ .start user :: during ++ after))
    (kept : ∀ s ∈ during ++ after, ¬ s.Forgets .fallback user) :
    let start := ofCache coalescing cache
    let first := (start.run before).lookups.length
    let begun := (start.run before).step (.start user)
    let served := begun.run during
    let last := served.run after
    ∀ roles, served.outcome? first = some (.roles roles) →
      (Hits first user roles begun during ∧
        Overtaken user start (before ++ .start user :: during)) ∨
      ∀ (l : Nat) (phase : Phase), served.lookups.length ≤ l →
        last.lookups[l]? = some ⟨user, phase⟩ → phase ≠ .abandoned →
          (∀ o, last.outcome? l = some o → ∃ roles, o = .roles roles) ∧
            ∀ o, coalescing = true ∨ o.isCrash = false →
              ∃ roles, (last.conclude l o).outcome? l = some (.roles roles) := by
  intro start first begun served last roles hserved
  have hstart : start.Steady := steady_ofCache built coalescing
  have hbegun : start.run (before ++ [.start user]) = begun := by
    rw [run_append, run_cons, run_nil]
  have hsplit : before ++ .start user :: during = (before ++ [.start user]) ++ during := by simp
  obtain ⟨hduring, hafter⟩ := Along.append.1 orderly
  have hserves : start.run (before ++ .start user :: during) = served := by
    rw [hsplit, run_append, hbegun]
  rw [hserves] at hafter
  have hsteady : served.Steady := hserves ▸ steady_run hstart hduring
  have hnew : (start.run (before ++ [.start user])).lookups[first]? = some ⟨user, .started⟩ := by
    rw [hbegun]
    simp [begun, first, step]
  have hreturned : ((start.run (before ++ [.start user])).run during).lookups[first]? =
      some ⟨user, .finished (.roles roles)⟩ := by
    obtain ⟨phase, hphase⟩ := lookups_run hnew during
    obtain ⟨v, hv⟩ := outcome?_eq_some.1 hserved
    rw [hbegun] at hphase ⊢
    rw [hphase] at hv
    cases hv
    exact hphase
  have hcases := backed_or_overtaken hstart (mirrored_ofCache built coalescing user)
    (hsplit ▸ hduring) (fun s hs => kept s (List.mem_append_left _ hs)) hnew hreturned
  rw [hbegun, ← hsplit] at hcases
  refine hcases.symm.imp_right fun hbacked l phase hlater hl stays => ?_
  obtain ⟨hstill, hroles⟩ := roles_run hsteady hbacked hafter
    fun s hs => kept s (List.mem_append_right _ hs)
  constructor
  · intro o ho
    obtain ⟨v, hv⟩ := outcome?_eq_some.1 ho
    rw [hl] at hv
    cases hv
    exact hroles l o hlater hl
  · intro o ho
    refine conclude_returns_roles (steady_run hsteady hafter) hstill hl stays ?_ ?_
    · rintro o rfl
      exact hroles l o hlater hl
    · rwa [coalescing_run, coalescing_run, coalescing_step, coalescing_run]

/-- The directory knows alice twice, with an invalidation in between, and fails after her entry in
the primary region has aged. -/
theorem return_roles_unless_overtaken_alice :
    let settings : CacheSettings := { maxEntries := 1, timeToLive := 100 }
    let cache : Cache := ⟨⟨1, some 100, []⟩, ⟨1, none, []⟩⟩
    let before : List Step := [.start "alice", .check 0, .ask 0,
      .finish 0 (.roles (RoleSet.ofList ["admins"])), .resume 0, .invalidate "alice",
      .start "bob", .check 1, .ask 1]
    let during : List Step := [.check 2, .ask 2, .finish 2 (.roles (RoleSet.ofList ["devs"])),
      .resume 2]
    let after : List Step := [.advance 150, .start "alice", .check 3, .ask 3,
      .finish 1 (.failed (.ambiguousUser "bob" 2)), .resume 1]
    let start := ofCache false cache
    let first := (start.run before).lookups.length
    let served := ((start.run before).step (.start "alice")).run during
    let last := served.run after
    settings.build = .ok cache ∧ Along Orderly start (before ++ .start "alice" :: during ++ after) ∧
      (∀ s ∈ during ++ after, ¬ s.Forgets .fallback "alice") ∧
      served.outcome? first = some (.roles (RoleSet.ofList ["devs"])) ∧
      last.lookups[3]? = some ⟨"alice", .waiting 3⟩ ∧
      ∃ roles, (last.conclude 3 (.failed .unavailable)).outcome? 3 = some (.roles roles) := by
  intro settings cache before during after start first served last
  have built : settings.build = .ok cache := rfl
  have orderly : Along Orderly start (before ++ .start "alice" :: during ++ after) := by decide
  have kept : ∀ s ∈ during ++ after, ¬ s.Forgets .fallback "alice" := by decide
  have hserved : served.outcome? first = some (.roles (RoleSet.ofList ["devs"])) := by decide
  have hwaits : last.lookups[3]? = some ⟨"alice", .waiting 3⟩ := by decide
  have whole : ∀ s ∈ before ++ .start "alice" :: during, s.Forgets .fallback "alice" →
      s.Forgets .primary "alice" := by decide
  rcases return_roles_unless_overtaken built orderly kept _ hserved with ⟨-, ho⟩ | hlater
  · obtain ⟨s, hs, reaches, passes⟩ := ho.exists_half
    exact absurd (whole s hs reaches) passes
  · obtain ⟨-, hconclude⟩ := hlater 3 _ (by decide) hwaits (by decide)
    exact ⟨built, orderly, kept, hserved, hwaits, hconclude _ (.inr rfl)⟩

/-- Roles of alice are written when an invalidation of alice has passed the primary region and has
not yet reached the fallback region. When it is over a lookup finds them, and a later one fails. -/
theorem overtaken_invalidation_loses_roles :
    let settings : CacheSettings := { maxEntries := 1, timeToLive := 100 }
    let cache : Cache := ⟨⟨1, some 100, []⟩, ⟨1, none, []⟩⟩
    let before : List Step := [.erase .primary "alice", .start "alice", .check 0, .ask 0,
      .finish 0 (.roles (RoleSet.ofList ["devs"])), .resume 0, .erase .fallback "alice"]
    let during : List Step := [.check 1]
    let after : List Step := [.advance 150, .start "alice", .check 2, .ask 2,
      .finish 1 (.failed .unavailable), .resume 2]
    let start := ofCache false cache
    let served := ((start.run before).step (.start "alice")).run during
    let last := served.run after
    settings.build = .ok cache ∧ Along Orderly start (before ++ .start "alice" :: during ++ after) ∧
      (∀ s ∈ during ++ after, ¬ s.Forgets .primary "alice" ∧ ¬ s.Forgets .fallback "alice") ∧
      served.outcome? 1 = some (.roles (RoleSet.ofList ["devs"])) ∧ served.lookups.length = 2 ∧
      last.lookups[2]? = some ⟨"alice", .finished (.failed .unavailable)⟩ := by
  intro settings cache before during after start served last
  have orderly : Along Orderly start (before ++ .start "alice" :: during ++ after) := by decide
  have kept : ∀ s ∈ during ++ after,
      ¬ s.Forgets .primary "alice" ∧ ¬ s.Forgets .fallback "alice" := by decide
  have hserved : served.outcome? 1 = some (.roles (RoleSet.ofList ["devs"])) := by decide
  have hcount : served.lookups.length = 2 := by decide
  have hlast : last.lookups[2]? = some ⟨"alice", .finished (.failed .unavailable)⟩ := by decide
  exact ⟨rfl, orderly, kept, hserved, hcount, hlast⟩

end Provider
end RoleLookup
