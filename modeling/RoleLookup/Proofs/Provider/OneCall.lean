import Mathlib.Data.List.Induction
import RoleLookup.Proofs.Provider.Availability
import RoleLookup.Proofs.Provider.Sequential

/-!
# How often the directory is asked

With coalescing, lookups of one user cost one directory call, as long as the primary region keeps
the roles that are written. Only a lookup that straggles can cost another: it reads the cache before
roles have been written, and asks when the first call has already left the calls in flight.

* `Retains`, the steps that this is about, by which the primary region keeps the roles of a user;
* `Filled`, a run in which roles of the user are written, with `find?_of_filled`;
* `Straggles`, and `read_early`, a lookup that has missed has read before roles were written;
* `asked_once_or_straggled`, and `asked_twice`, runs in which the directory is asked again.
-/

namespace RoleLookup
namespace Provider

/-- The user whose roles a step writes into the primary region. -/
def filled? (p : Provider) : Step → Option String
  | .receive l => p.written? (.resume l)
  | s => p.written? s

/-- What is asked of a step, for a user whose roles are to stay in the primary region. -/
structure Retains (user : String) (p : Provider) (s : Step) : Prop where
  /-- No invalidation of the user reaches the region. -/
  kept : ¬ s.Forgets .primary user
  /-- A write drops no entry. -/
  room : ∀ v ∈ p.filled? s, (p.cache.region .primary).HasRoomFor v
  /-- The entry of the user is young. -/
  young : ∀ e ∈ (p.cache.region .primary).find? user,
    (p.cache.region .primary).isAlive p.now e = true

instance (user : String) (p : Provider) (s : Step) : Decidable (p.Retains user s) :=
  decidable_of_iff (¬ s.Forgets .primary user ∧
      (∀ v ∈ p.filled? s, (p.cache.region .primary).HasRoomFor v) ∧
        ∀ e ∈ (p.cache.region .primary).find? user,
          (p.cache.region .primary).isAlive p.now e = true)
    ⟨fun ⟨hk, hr, hy⟩ => ⟨hk, hr, hy⟩, fun h => ⟨h.kept, h.room, h.young⟩⟩

/-- Roles of a user are written into the primary region in a run. -/
def Filled (p : Provider) (ss : List Step) (user : String) : Prop :=
  ∃ before s after, ss = before ++ s :: after ∧ (p.run before).filled? s = some user

/-- A lookup of a user reads the cache before roles of the user have been written, and asks for a
call when one has been made for the user and is in flight no more. -/
structure Straggles (p : Provider) (user : String) (before : List Step) (l : Nat)
    (between : List Step) : Prop where
  reads : (p.run before).lookups[l]? = some ⟨user, .started⟩
  early : ¬ p.Filled before user
  asks : (p.run (before ++ .check l :: between)).lookups[l]? = some ⟨user, .missed⟩
  made : user ∈ (p.run (before ++ .check l :: between)).calls.map (·.user)
  late : (p.run (before ++ .check l :: between)).inFlight? user = none

variable {p : Provider} {s : Step} {ss : List Step} {l c : Nat} {user u v : String}

/-! ### Roles in the primary region -/

theorem filled?_eq_some : p.filled? s = some v ↔ (∃ roles, s = .put v roles) ∨
    ∃ l c roles, (s = .receive l ∨ s = .resume l) ∧ p.lookups[l]? = some ⟨v, .waiting c⟩ ∧
      p.callState? c = some (.ended (.roles roles)) := by
  have waits (l : Nat) (h : p.written? (.resume l) = some v) :
      ∃ c roles, p.lookups[l]? = some ⟨v, .waiting c⟩ ∧
        p.callState? c = some (.ended (.roles roles)) := by
    simp only [written?] at h
    split at h
    · rename_i hl
      split at h
      · rename_i hc
        cases h
        exact ⟨_, _, hl, hc⟩
      · cases h
    · cases h
  constructor
  · intro h
    cases s with
    | put w roles =>
      cases h
      exact .inl ⟨roles, rfl⟩
    | receive l =>
      obtain ⟨c, roles, hl, hc⟩ := waits l h
      exact .inr ⟨l, c, roles, .inl rfl, hl, hc⟩
    | resume l =>
      obtain ⟨c, roles, hl, hc⟩ := waits l h
      exact .inr ⟨l, c, roles, .inr rfl, hl, hc⟩
    | _ => cases h
  · rintro (⟨roles, rfl⟩ | ⟨l, c, roles, rfl | rfl, hl, hc⟩)
    · rfl
    · simp [filled?, written?, hl, hc]
    · simp [filled?, written?, hl, hc]

/-- What is written is in the region. -/
theorem find?_of_filled (hs : p.Retains user s) (h : p.filled? s = some user) :
    ∃ e, ((p.step s).cache.region .primary).find? user = some e := by
  have room := hs.room user h
  rcases filled?_eq_some.1 h with ⟨roles, rfl⟩ | ⟨l, c, roles, rfl | rfl, hl, hc⟩
  · refine ⟨⟨user, roles, p.now⟩, ?_⟩
    rw [step, Cache.region_put, Region.find?_insert room, if_pos rfl]
  · refine ⟨⟨user, roles, p.now⟩, ?_⟩
    rw [step, receive_of_ended hl hc, take, setPhase_cache, Cache.region_insert, if_pos rfl]
    exact (Region.find?_insert room user).trans (if_pos rfl)
  · refine ⟨⟨user, roles, p.now⟩, ?_⟩
    rw [resume_of_roles hl hc, setPhase_cache, Cache.region_put, Region.find?_insert room,
      if_pos rfl]

/-- An entry of a user is there after a write to the region. -/
theorem find?_insert_of_find? {r : Region} {e e' : Entry} (room : r.HasRoomFor e'.user)
    (he : r.find? user = some e) : ∃ x, (r.insert e').find? user = some x := by
  rw [Region.find?_insert room]
  split
  · exact ⟨e', rfl⟩
  · exact ⟨e, he⟩

/-- What the region holds for the user it keeps holding. -/
theorem find?_of_retains (hs : p.Retains user s) {e : Entry}
    (he : (p.cache.region .primary).find? user = some e) :
    ∃ e', ((p.step s).cache.region .primary).find? user = some e' := by
  have hkept := hs.kept
  have w := cache_step p s
  generalize (p.step s).cache = c' at w
  cases w with
  | keep => exact ⟨e, he⟩
  | primary hl hc =>
    rw [Cache.region_insert, if_pos rfl]
    have room := hs.room _ (filled?_eq_some.2 (.inr ⟨_, _, _, .inl rfl, hl, hc⟩))
    exact find?_insert_of_find? room he
  | fallback =>
    rw [Cache.region_insert, if_neg (by simp)]
    exact ⟨e, he⟩
  | both hl hc =>
    rw [Cache.region_put]
    have room := hs.room _ (filled?_eq_some.2 (.inr ⟨_, _, _, .inr rfl, hl, hc⟩))
    exact find?_insert_of_find? room he
  | put v roles =>
    rw [Cache.region_put]
    exact find?_insert_of_find? (hs.room v rfl) he
  | erase t v =>
    refine ⟨e, ?_⟩
    rw [Cache.region_erase]
    split
    · rename_i ht
      rw [Region.find?_erase, if_neg fun hv => hkept ⟨ht.symm, hv⟩, he]
    · exact he
  | clear t =>
    refine ⟨e, ?_⟩
    rw [Cache.region_clear, if_neg fun ht => hkept ht.symm, he]
  | invalidate v =>
    refine ⟨e, ?_⟩
    have hv : v ≠ user := hkept
    rw [Cache.region_invalidate, Region.find?_erase, if_neg hv, he]
  | invalidateAll => exact absurd trivial hkept

theorem Filled.cases (h : p.Filled (ss ++ [s]) user) :
    p.Filled ss user ∨ (p.run ss).filled? s = some user := by
  obtain ⟨before, t, after, heq, ht⟩ := h
  rcases List.eq_nil_or_concat after with rfl | ⟨after, x, rfl⟩
  · obtain ⟨rfl, hs⟩ := List.append_inj' heq rfl
    cases hs
    exact .inr ht
  · rw [List.concat_eq_append, ← List.cons_append, ← List.append_assoc] at heq
    obtain ⟨rfl, -⟩ := List.append_inj' heq rfl
    exact .inl ⟨before, t, after, rfl, ht⟩

/-- Once roles of the user have been written, the primary region holds an entry of the user. -/
theorem find?_of_filled_run (retains : Along (Retains user) p ss) (h : p.Filled ss user) :
    ∃ e, ((p.run ss).cache.region .primary).find? user = some e := by
  induction ss using List.reverseRecOn with
  | nil =>
    obtain ⟨before, t, after, heq, -⟩ := h
    simp at heq
  | append_singleton ss s ih =>
    obtain ⟨hss, hs, -⟩ := Along.append.1 retains
    simp only [run_append, run_cons, run_nil]
    rcases h.cases with hold | hnew
    · obtain ⟨e, he⟩ := ih hss hold
      exact find?_of_retains hs he
    · exact find?_of_filled hs hnew

/-! ### Lookups that have missed -/

/-- A lookup that has missed has read the cache before roles of its user were written. -/
theorem read_early (retains : Along (Retains user) p ss) (hstart : p.lookups = [])
    (hl : (p.run ss).lookups[l]? = some ⟨user, .missed⟩) :
    ∃ before between, ss = before ++ .check l :: between ∧
      (p.run before).lookups[l]? = some ⟨user, .started⟩ ∧ ¬ p.Filled before user := by
  induction ss using List.reverseRecOn with
  | nil => simp [hstart] at hl
  | append_singleton ss s ih =>
    obtain ⟨hss, hs, -⟩ := Along.append.1 retains
    simp only [run_append, run_cons, run_nil] at hl
    rcases lookups_of_step hl with ⟨ph, hph, rfl | m⟩ | ⟨-, hnew, -⟩
    · obtain ⟨before, between, rfl, hread, hearly⟩ := ih hss hph
      exact ⟨before, between ++ [s], by simp, hread, hearly⟩
    · cases m with
      | miss hc =>
        refine ⟨ss, [], rfl, hph, ?_⟩
        -- If roles had been written, the lookup would have found them, and they are young.
        intro hfilled
        obtain ⟨e, he⟩ := find?_of_filled_run hss hfilled
        have hyoung := hs.young e he
        simp only [Cache.get?, Region.get?, Option.map_eq_none_iff, Option.filter_eq_none_iff] at hc
        exact hc e he hyoung
    · cases hnew

/-! ### Calls -/

/-- The directory is asked for no one more, or for the user of a lookup that finds no call. -/
theorem asked_step (p : Provider) (s : Step) :
    (p.step s).calls.map (·.user) = p.calls.map (·.user) ∨
      ∃ l u, s = .ask l ∧ p.lookups[l]? = some ⟨u, .missed⟩ ∧ p.joined? u = none ∧
        (p.step s).calls.map (·.user) = p.calls.map (·.user) ++ [u] := by
  have f := step_fires p s
  generalize p.step s = q at f
  have ends (c : Nat) (st : CallState) :
      (p.setCall c st).calls.map (·.user) = p.calls.map (·.user) :=
    congrArg View.asked (view_setCall st)
  cases f with
  | @call l u hl hj => exact .inr ⟨l, u, rfl, hl, hj, by simp⟩
  | answer | burst | alone => exact .inl (ends _ _)
  | withdraw | finish => exact .inl (ends _ _)
  | drop => exact .inl (ends _ _)
  | _ => exact .inl rfl

/-- A lookup that makes a call while the directory has been asked for its user before straggles. -/
theorem straggles_of_call {cache : Cache} (retains : Along (Retains user) (ofCache true cache) ss)
    (hl : ((ofCache true cache).run ss).lookups[l]? = some ⟨user, .missed⟩)
    (hj : ((ofCache true cache).run ss).joined? user = none)
    (hmade : user ∈ ((ofCache true cache).run ss).calls.map (·.user)) :
    ∃ before between, ss = before ++ .check l :: between ∧
      (ofCache true cache).Straggles user before l between := by
  obtain ⟨before, between, rfl, hreads, hearly⟩ := read_early retains rfl hl
  have shared : ((ofCache true cache).run (before ++ .check l :: between)).coalescing = true :=
    coalescing_run _ _
  rw [joined?, if_pos shared] at hj
  exact ⟨before, between, rfl, hreads, hearly, hl, hmade, hj⟩

/-- **The directory is asked once.** In a run with coalescing in which the primary region keeps the
roles of a user, the directory is asked for the user at most once, unless a lookup of the user
straggles. -/
theorem asked_once_or_straggled (cache : Cache) (user : String) (ss : List Step)
    (retains : Along (Retains user) (ofCache true cache) ss) :
    let start := ofCache true cache
    ((start.run ss).calls.map (·.user)).count user ≤ 1 ∨
      ∃ before l between after, ss = before ++ .check l :: between ++ .ask l :: after ∧
        start.Straggles user before l between := by
  intro start
  induction ss using List.reverseRecOn with
  | nil => exact .inl (Nat.zero_le 1)
  | append_singleton ss s ih =>
    obtain ⟨hss, -⟩ := Along.append.1 retains
    rcases ih hss with honce | ⟨before, l, between, after, rfl, hlate⟩
    · simp only [run_append, run_cons, run_nil]
      rcases asked_step (start.run ss) s with hsame | ⟨l, u, rfl, hl, hj, hmore⟩
      · exact .inl (by rwa [hsame])
      · by_cases hu : u = user
        · subst hu
          by_cases hmade : u ∈ (start.run ss).calls.map (·.user)
          · obtain ⟨before, between, rfl, hlate⟩ := straggles_of_call hss hl hj hmade
            exact .inr ⟨before, l, between, [], rfl, hlate⟩
          · left
            rw [hmore, List.count_append, List.count_eq_zero.2 hmade]
            simp
        · left
          rw [hmore, List.count_append, List.count_singleton, if_neg (by simpa using hu)]
          exact honce
    · exact .inr ⟨before, l, between, after ++ [s], by simp, hlate⟩

/-- Four lookups of alice share one call. The third joins it, and the last one finds the roles. -/
theorem asked_once_or_straggled_alice :
    let start := ofCache true ⟨⟨1, some 100, []⟩, ⟨1, none, []⟩⟩
    let ss : List Step := [.start "alice", .start "alice", .check 0, .check 1, .ask 0, .ask 1,
      .start "alice", .check 2, .ask 2, .finish 0 (.roles (RoleSet.ofList ["devs"])), .receive 1,
      .advance 50, .resume 0, .resume 2, .store 1, .start "alice", .check 3]
    Along (Retains "alice") start ss ∧
      (start.run ss).calls.map (·.user) = ["alice"] ∧
      (start.run ss).outcome? 3 = some (.roles (RoleSet.ofList ["devs"])) ∧
      (((start.run ss).calls.map (·.user)).count "alice" ≤ 1 ∨
        ∃ before l between after, ss = before ++ .check l :: between ++ .ask l :: after ∧
          start.Straggles "alice" before l between) := by
  intro start ss
  have retains : Along (Retains "alice") start ss := by decide
  exact ⟨retains, by decide, by decide, asked_once_or_straggled _ "alice" ss retains⟩

/-! ### Runs in which the directory is asked again -/

/-- Whether a call ends without roles in a step, or a caller gives up. -/
def Step.isUnlucky : Step → Bool
  | .answer _ (.roles _) | .finish _ (.roles _) => false
  | .answer .. | .finish .. | .abandon _ => true
  | _ => false

/-- Two lookups of alice cost two calls, though both calls give roles, no caller gives up and the
region keeps all roles. In the first run both lookups miss, and one of them asks only after the call
of the other has left the calls in flight. In the second run a lookup starts after the call has left
and before its roles are written. In the last run, which is one lookup after the other, the regions
have no room. -/
theorem asked_twice :
    let start := ofCache true ⟨⟨1, some 100, []⟩, ⟨1, none, []⟩⟩
    let roomless := ofCache true ⟨⟨0, some 100, []⟩, ⟨0, none, []⟩⟩
    let devs : Outcome := .roles (RoleSet.ofList ["devs"])
    let overtaken : List Step := [.start "alice", .check 0, .start "alice", .check 1, .ask 0,
      .finish 0 devs, .resume 0, .ask 1, .finish 1 devs, .resume 1]
    let between : List Step := [.start "alice", .check 0, .ask 0, .finish 0 devs, .start "alice",
      .check 1, .resume 0, .ask 1, .finish 1 devs, .resume 1]
    let inTurn : List Step := [.start "alice", .check 0, .ask 0, .finish 0 devs, .resume 0,
      .start "alice", .check 1, .ask 1, .finish 1 devs, .resume 1]
    (∀ s ∈ overtaken ++ between ++ inTurn, s.isUnlucky = false ∧ ¬ s.Forgets .primary "alice") ∧
    (Along (Retains "alice") start overtaken ∧
      (start.run overtaken).calls.map (·.user) = ["alice", "alice"]) ∧
    (Along (Retains "alice") start between ∧
      (start.run between).calls.map (·.user) = ["alice", "alice"]) ∧
    (roomless.run inTurn).cache = roomless.cache ∧
      (roomless.run inTurn).calls.map (·.user) = ["alice", "alice"] := by
  decide

end Provider
end RoleLookup
