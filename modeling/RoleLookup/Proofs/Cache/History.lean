import Mathlib
import RoleLookup.Cache

/-!
# What a cache remembers

As long as no write drops an entry, a cache answers from the last operation that touched a user:
the fallback region with what was written, the primary region as long as that is young.

* `Operation`, `Clocked`, `run`, a cache and the time, and what is done to it in a row;
* `Roomy`, no write drops an entry;
* `WroteLast`, the last operation that touched a user has written roles, and how long ago;
* `Operation.recall`, one operation as seen by one user, and `find?_run`, both regions hold what
  each user recalls;
* `reads_follow_history`, the law of all reads.
-/

namespace RoleLookup
namespace Cache

/-- Something done to a cache, or to the clock. -/
inductive Operation
  | put (user : String) (roles : RoleSet)
  | get (user : String)
  | getFromFallback (user : String)
  | invalidate (user : String)
  | invalidateAll
  | advance (millis : Nat)
  deriving Repr

namespace Operation

/-- A read. -/
def isRead : Operation → Bool
  | get _ | getFromFallback _ => true
  | _ => false

/-- It writes or forgets the roles of a user. -/
def touches (u : String) : Operation → Bool
  | put v _ | invalidate v => v == u
  | invalidateAll => true
  | _ => false

/-- For how long it lets the clock run. -/
def millis : Operation → Nat
  | advance millis => millis
  | _ => 0

/-- It touches a user or the clock. -/
def concerns (u : String) : Operation → Bool
  | advance _ => true
  | op => op.touches u

/-- The user whose roles it writes. -/
def written? : Operation → Option String
  | put user _ => some user
  | _ => none

end Operation

/-- A cache and the time. -/
structure Clocked where
  cache : Cache
  now : Nat

namespace Clocked

/-- One operation. -/
def step (m : Clocked) : Operation → Clocked
  | .put user roles => { m with cache := m.cache.put m.now user roles }
  | .get _ | .getFromFallback _ => m
  | .invalidate user => { m with cache := m.cache.invalidate user }
  | .invalidateAll => { m with cache := m.cache.invalidateAll }
  | .advance millis => { m with now := m.now + millis }

/-- Operations in a row. -/
def run (m : Clocked) (ops : List Operation) : Clocked := ops.foldl step m

/-- The young roles of a user. -/
def get? (m : Clocked) (user : String) : Option RoleSet := m.cache.get? m.now user

/-- The last known roles of a user. -/
def getFromFallback? (m : Clocked) (user : String) : Option RoleSet :=
  m.cache.getFromFallback? m.now user

/-- No write of a run drops an entry. -/
def Roomy (m : Clocked) : List Operation → Prop
  | [] => True
  | op :: ops => (∀ user ∈ op.written?, m.cache.HasRoomFor user) ∧ (m.step op).Roomy ops

instance decidableRoomy : (m : Clocked) → (ops : List Operation) → Decidable (m.Roomy ops)
  | _, [] => isTrue trivial
  | m, op :: ops =>
    have := decidableRoomy (m.step op) ops
    inferInstanceAs (Decidable (_ ∧ _))

end Clocked

/-! ### What a history says -/

/-- How long a history takes. -/
def elapsed (ops : List Operation) : Nat := (ops.map (·.millis)).sum

/-- The last operation that touched a user has written some roles, some time ago. -/
def WroteLast (u : String) (roles : RoleSet) (age : Nat) (ops : List Operation) : Prop :=
  ∃ before after, ops = before ++ .put u roles :: after ∧
    (∀ op ∈ after, op.touches u = false) ∧ elapsed after = age

variable {m : Clocked} {op : Operation} {ops : List Operation} {u : String} {roles : RoleSet}
  {age now : Nat}

theorem elapsed_concat (ops : List Operation) (op : Operation) :
    elapsed (ops ++ [op]) = elapsed ops + op.millis := by
  simp [elapsed]

theorem not_wroteLast_nil : ¬ WroteLast u roles age [] := by
  rintro ⟨before, after, h, -⟩
  simp at h

theorem WroteLast.age_le (h : WroteLast u roles age ops) : age ≤ elapsed ops := by
  obtain ⟨before, after, rfl, -, rfl⟩ := h
  simp [elapsed]
  omega

/-- An operation that writes or forgets the roles of a user is the last one to touch them. -/
theorem wroteLast_concat_of_touches (h : op.touches u = true) :
    WroteLast u roles age (ops ++ [op]) ↔ op = .put u roles ∧ age = 0 := by
  constructor
  · rintro ⟨before, after, hops, hafter, rfl⟩
    rcases List.eq_nil_or_concat after with rfl | ⟨after, op', rfl⟩
    · obtain ⟨-, hop⟩ := List.append_inj' hops rfl
      exact ⟨(List.cons.inj hop).1, rfl⟩
    · rw [List.concat_eq_append, ← List.cons_append, ← List.append_assoc] at hops
      obtain ⟨-, hop⟩ := List.append_inj' hops rfl
      cases hop
      rw [hafter op (by simp)] at h
      cases h
  · rintro ⟨rfl, rfl⟩
    exact ⟨ops, [], rfl, nofun, rfl⟩

/-- Other operations let what was written grow older. -/
theorem wroteLast_concat_of_not_touches (h : op.touches u = false) :
    WroteLast u roles age (ops ++ [op]) ↔
      ∃ younger, WroteLast u roles younger ops ∧ younger + op.millis = age := by
  constructor
  · rintro ⟨before, after, hops, hafter, rfl⟩
    rcases List.eq_nil_or_concat after with rfl | ⟨after, op', rfl⟩
    · obtain ⟨-, hop⟩ := List.append_inj' hops rfl
      cases hop
      simp [Operation.touches] at h
    · rw [List.concat_eq_append] at hops hafter ⊢
      rw [← List.cons_append, ← List.append_assoc] at hops
      obtain ⟨rfl, hop⟩ := List.append_inj' hops rfl
      cases hop
      exact ⟨elapsed after, ⟨before, after, rfl,
        fun op hop => hafter op (List.mem_append_left _ hop), rfl⟩, (elapsed_concat after op).symm⟩
  · rintro ⟨_, ⟨before, after, rfl, hafter, rfl⟩, rfl⟩
    refine ⟨before, after ++ [op], by simp, fun op' hop => ?_, elapsed_concat after op⟩
    rcases List.mem_append.1 hop with hop | hop
    · exact hafter op' hop
    · exact List.mem_singleton.1 hop ▸ h

/-! ### What one user recalls -/

/-- What an operation makes of the entry of a user and of the time. -/
def Operation.recall (u : String) (k : Option Entry × Nat) : Operation → Option Entry × Nat
  | put v roles => if v = u then (some ⟨u, roles, k.2⟩, k.2) else k
  | invalidate v => if v = u then (none, k.2) else k
  | invalidateAll => (none, k.2)
  | advance millis => (k.1, k.2 + millis)
  | get _ | getFromFallback _ => k

/-- The entry of a user and the time after a history. -/
def recalled (u : String) (k : Option Entry × Nat) (ops : List Operation) : Option Entry × Nat :=
  ops.foldl (Operation.recall u) k

theorem recalled_concat (k : Option Entry × Nat) :
    recalled u k (ops ++ [op]) = op.recall u (recalled u k ops) := by
  simp [recalled]

theorem recall_snd (k : Option Entry × Nat) : (op.recall u k).2 = k.2 + op.millis := by
  cases op <;> simp [Operation.recall, Operation.millis] <;> split <;> rfl

theorem recall_of_not_touches (h : op.touches u = false) (k : Option Entry × Nat) :
    (op.recall u k).1 = k.1 := by
  cases op <;> simp_all [Operation.recall, Operation.touches]

theorem recall_of_touches (h : op.touches u = true) (k : Option Entry × Nat) {e : Entry} :
    (op.recall u k).1 = some e ↔ op = .put u e.roles ∧ e.user = u ∧ e.writtenAt = k.2 := by
  cases op with
  | put v roles =>
    obtain rfl : v = u := by simpa [Operation.touches] using h
    obtain ⟨user, roles', writtenAt⟩ := e
    simp only [Operation.recall, ↓reduceIte, Option.some.injEq, Entry.mk.injEq,
      Operation.put.injEq, true_and]
    exact ⟨fun ⟨huser, hroles, hwritten⟩ => ⟨hroles, huser.symm, hwritten.symm⟩,
      fun ⟨hroles, huser, hwritten⟩ => ⟨huser.symm, hroles, hwritten.symm⟩⟩
  | _ => simp_all [Operation.recall, Operation.touches]

theorem recalled_snd (now : Nat) (ops : List Operation) :
    (recalled u (none, now) ops).2 = now + elapsed ops := by
  induction ops using List.reverseRecOn with
  | nil => rfl
  | append_singleton ops op ih =>
    rw [recalled_concat, recall_snd, ih, elapsed_concat, Nat.add_assoc]

/-- A user recalls what was written last. -/
theorem recalled_eq_some {e : Entry} : (recalled u (none, now) ops).1 = some e ↔
    ∃ age, WroteLast u e.roles age ops ∧ e.user = u ∧ e.writtenAt + age = now + elapsed ops := by
  induction ops using List.reverseRecOn with
  | nil => simp [recalled, not_wroteLast_nil]
  | append_singleton ops op ih =>
    rw [recalled_concat]
    cases h : op.touches u with
    | true =>
      have hmillis : op.millis = 0 := by cases op <;> simp_all [Operation.touches, Operation.millis]
      simp only [recall_of_touches h, recalled_snd, wroteLast_concat_of_touches h, elapsed_concat,
        hmillis]
      constructor
      · rintro ⟨hop, huser, hwritten⟩
        exact ⟨0, ⟨hop, rfl⟩, huser, hwritten⟩
      · rintro ⟨age, ⟨hop, rfl⟩, huser, hwritten⟩
        exact ⟨hop, huser, hwritten⟩
    | false =>
      simp only [recall_of_not_touches h, ih, wroteLast_concat_of_not_touches h, elapsed_concat]
      constructor
      · rintro ⟨age, hlast, huser, hwritten⟩
        exact ⟨_, ⟨age, hlast, rfl⟩, huser, by omega⟩
      · rintro ⟨_, ⟨age, hlast, rfl⟩, huser, hwritten⟩
        exact ⟨age, hlast, huser, by omega⟩

/-- Nothing else is recalled of a history than what concerns the user. -/
theorem recalled_filter (k : Option Entry × Nat) (ops : List Operation) :
    recalled u k (ops.filter (·.concerns u)) = recalled u k ops := by
  rw [recalled, recalled, List.foldl_filter]
  congr 1
  funext k op
  split
  · rfl
  · rename_i h
    cases op <;> simp_all [Operation.recall, Operation.concerns, Operation.touches]

/-! ### What the regions hold -/

namespace Clocked

theorem run_cons (m : Clocked) (op : Operation) (ops : List Operation) :
    m.run (op :: ops) = (m.step op).run ops := rfl

/-- Both regions hold of a user what the user recalls. -/
theorem find?_step (room : ∀ user ∈ op.written?, m.cache.HasRoomFor user) (t : Tier) (u : String) :
    (((m.step op).cache.region t).find? u, (m.step op).now) =
      op.recall u ((m.cache.region t).find? u, m.now) := by
  cases op with
  | put v roles =>
    simp only [step, find?_put (room v rfl), Operation.recall]
    split
    · rename_i h
      rw [h]
    · rfl
  | invalidate v =>
    simp only [step, region_invalidate, Region.find?_erase, Operation.recall]
    split <;> rfl
  | invalidateAll => simp [step, Operation.recall]
  | advance | get | getFromFallback => rfl

theorem find?_run (room : m.Roomy ops) (t : Tier) (u : String) :
    (((m.run ops).cache.region t).find? u, (m.run ops).now) =
      recalled u ((m.cache.region t).find? u, m.now) ops := by
  induction ops generalizing m with
  | nil => rfl
  | cons op ops ih =>
    rw [run_cons, ih room.2, find?_step room.1]
    rfl

/-- Reads change nothing. -/
theorem run_filter (m : Clocked) (ops : List Operation) :
    m.run (ops.filter (!·.isRead)) = m.run ops := by
  rw [run, run, List.foldl_filter]
  congr 1
  funext m op
  cases op <;> rfl

theorem lifetime_run (m : Clocked) (ops : List Operation) (t : Tier) :
    ((m.run ops).cache.region t).lifetime = (m.cache.region t).lifetime := by
  induction ops generalizing m with
  | nil => rfl
  | cons op ops ih =>
    rw [run_cons, ih]
    cases op <;> simp [step]

/-- A region without room stays empty. -/
theorem region_run_of_no_room {age : Option Nat} (t : Tier) (h : m.cache.region t = ⟨0, age, []⟩)
    (ops : List Operation) : (m.run ops).cache.region t = ⟨0, age, []⟩ := by
  induction ops generalizing m with
  | nil => exact h
  | cons op ops ih =>
    refine ih ?_
    cases op <;> simp [step, h, Region.insert, Region.erase, Region.clear]

/-! ### The law of all reads -/

/-- The empty cache of some settings at some time. -/
def blank (s : CacheSettings) (now : Nat) : Clocked :=
  ⟨⟨⟨s.maxEntries, some s.timeToLive, []⟩, ⟨s.maxEntries, none, []⟩⟩, now⟩

theorem blank_of_build {s : CacheSettings} {cache : Cache} (h : s.build = .ok cache) (now : Nat) :
    (⟨cache, now⟩ : Clocked) = blank s now := by
  unfold CacheSettings.build at h
  split at h
  · cases h
  · cases h
    rfl

variable {s : CacheSettings}

theorem find?_blank (room : (blank s now).Roomy ops) (t : Tier) (u : String) :
    ((((blank s now).run ops).cache.region t).find? u, ((blank s now).run ops).now) =
      recalled u (none, now) ops := by
  cases t <;> exact find?_run room _ u

theorem find?_blank_eq_some (room : (blank s now).Roomy ops) (t : Tier) {e : Entry} :
    (((blank s now).run ops).cache.region t).find? u = some e ↔
      ∃ age, WroteLast u e.roles age ops ∧ e.user = u ∧
        e.writtenAt + age = ((blank s now).run ops).now := by
  obtain ⟨hfind, hnow⟩ := Prod.ext_iff.1 (find?_blank room t u)
  simp only at hfind hnow
  rw [hfind, hnow, recalled_eq_some, recalled_snd]

/-- What was written last is found in both regions. -/
theorem find?_of_wroteLast (room : (blank s now).Roomy ops) (t : Tier)
    (h : WroteLast u roles age ops) :
    ∃ writtenAt, writtenAt + age = ((blank s now).run ops).now ∧
      (((blank s now).run ops).cache.region t).find? u = some ⟨u, roles, writtenAt⟩ := by
  have hnow : ((blank s now).run ops).now = now + elapsed ops :=
    (congrArg Prod.snd (find?_blank room t u)).trans (recalled_snd now ops)
  have hle := h.age_le
  have hsum : now + elapsed ops - age + age = ((blank s now).run ops).now := by omega
  exact ⟨_, hsum, (find?_blank_eq_some room t).2 ⟨age, h, rfl, hsum⟩⟩

theorem getFromFallback?_blank (room : (blank s now).Roomy ops) :
    ((blank s now).run ops).getFromFallback? u = some roles ↔ ∃ age, WroteLast u roles age ops := by
  have hget : ((blank s now).run ops).getFromFallback? u =
      ((((blank s now).run ops).cache.region .fallback).find? u).map (·.roles) :=
    congrArg _ (Region.get?_of_ageless (lifetime_run (blank s now) ops .fallback) _ u)
  rw [hget, Option.map_eq_some_iff]
  constructor
  · rintro ⟨e, he, rfl⟩
    obtain ⟨age, hlast, -⟩ := (find?_blank_eq_some room .fallback).1 he
    exact ⟨age, hlast⟩
  · rintro ⟨age, hlast⟩
    obtain ⟨writtenAt, -, hfind⟩ := find?_of_wroteLast room .fallback hlast
    exact ⟨_, hfind, rfl⟩

theorem get?_blank (room : (blank s now).Roomy ops) :
    ((blank s now).run ops).get? u = some roles ↔
      ∃ age < s.timeToLive, WroteLast u roles age ops := by
  have hget : ((blank s now).run ops).get? u =
      ((((blank s now).run ops).cache.region .primary).find? u |>.filter
        (((blank s now).run ops).now < ·.writtenAt + s.timeToLive)).map (·.roles) :=
    congrArg _ (Region.get?_of_lifetime (lifetime_run (blank s now) ops .primary) _ u)
  rw [hget, Option.map_eq_some_iff]
  simp only [Option.filter_eq_some_iff, decide_eq_true_eq]
  constructor
  · rintro ⟨e, ⟨he, young⟩, rfl⟩
    obtain ⟨age, hlast, -, hsum⟩ := (find?_blank_eq_some room .primary).1 he
    exact ⟨age, by omega, hlast⟩
  · rintro ⟨age, young, hlast⟩
    obtain ⟨writtenAt, hsum, hfind⟩ := find?_of_wroteLast room .primary hlast
    exact ⟨_, ⟨hfind, show _ < writtenAt + s.timeToLive by omega⟩, rfl⟩

/-- Two caches answer alike for a user of whom they hold the same. -/
theorem reads_congr {m m' : Clocked}
    (hlifetime : ∀ t, (m.cache.region t).lifetime = (m'.cache.region t).lifetime)
    (hsame : ∀ t, ((m.cache.region t).find? u, m.now) = ((m'.cache.region t).find? u, m'.now)) :
    m.get? u = m'.get? u ∧ m.getFromFallback? u = m'.getFromFallback? u := by
  have hget (t) : (m.cache.region t).get? m.now u = (m'.cache.region t).get? m'.now u := by
    obtain ⟨hfind, hnow⟩ := Prod.mk.inj (hsame t)
    have halive : (m.cache.region t).isAlive m.now = (m'.cache.region t).isAlive m'.now := by
      funext e
      rw [Region.isAlive, Region.isAlive, hlifetime t, hnow]
    rw [Region.get?, Region.get?, halive, hfind]
  exact ⟨congrArg (Option.map Entry.roles) (hget .primary),
    congrArg (Option.map Entry.roles) (hget .fallback)⟩

end Clocked

/-- **A cache answers from its history.** As long as no write drops an entry, the fallback region
answers with some roles just if the last operation that touched the user has written them, and the
primary region just if that is also less than the lifetime ago. Reads change nothing, and nor do
operations on other users. A cache without room answers nothing. -/
theorem reads_follow_history (s : CacheSettings) (cache : Cache) (h : s.build = .ok cache)
    (now : Nat) :
    let start : Clocked := ⟨cache, now⟩
    (∀ ops, start.Roomy ops → ∀ user roles,
      ((start.run ops).getFromFallback? user = some roles ↔
        ∃ age, WroteLast user roles age ops) ∧
      ((start.run ops).get? user = some roles ↔
        ∃ age < s.timeToLive, WroteLast user roles age ops)) ∧
    (∀ ops, start.run (ops.filter (!·.isRead)) = start.run ops) ∧
    (∀ user ops ops', start.Roomy ops → start.Roomy ops' →
      ops.filter (·.concerns user) = ops'.filter (·.concerns user) →
      (start.run ops).get? user = (start.run ops').get? user ∧
      (start.run ops).getFromFallback? user = (start.run ops').getFromFallback? user) ∧
    (s.maxEntries = 0 → ∀ ops user,
      (start.run ops).get? user = none ∧ (start.run ops).getFromFallback? user = none) := by
  intro start
  have hstart : start = Clocked.blank s now := Clocked.blank_of_build h now
  rw [hstart]
  refine ⟨fun ops room user roles => ⟨Clocked.getFromFallback?_blank room, Clocked.get?_blank room⟩,
    fun ops => Clocked.run_filter _ ops, ?_, ?_⟩
  · intro user ops ops' room room' hsame
    refine Clocked.reads_congr (fun t => ?_) fun t => ?_
    · rw [Clocked.lifetime_run, Clocked.lifetime_run]
    · rw [Clocked.find?_blank room, Clocked.find?_blank room', ← recalled_filter, hsame,
        recalled_filter]
  · intro hnone ops user
    have hprimary : ((Clocked.blank s now).run ops).cache.primary = ⟨0, some s.timeToLive, []⟩ :=
      Clocked.region_run_of_no_room .primary (by rw [← hnone]; rfl) ops
    have hfallback : ((Clocked.blank s now).run ops).cache.fallback = ⟨0, none, []⟩ :=
      Clocked.region_run_of_no_room .fallback (by rw [← hnone]; rfl) ops
    rw [Clocked.get?, Clocked.getFromFallback?, Cache.get?, Cache.getFromFallback?, hprimary,
      hfallback]
    exact ⟨rfl, rfl⟩

/-- The empty set of roles is an answer. It is given until a lifetime has passed since the write,
whatever is read and done to others, and by the fallback region also after that. -/
theorem reads_follow_history_empty :
    let s : CacheSettings := { maxEntries := 2, timeToLive := 100, concurrencyLevel := 0 }
    let start : Clocked := Clocked.blank s 0
    let ops : List Operation :=
      [.put "alice" (.ofList ["devs"]), .advance 60, .put "alice" .empty, .put "bob" .empty,
        .advance 99, .get "alice", .invalidate "bob"]
    s.build = .ok start.cache ∧ start.Roomy (ops ++ [.advance 1]) ∧
    (start.run ops).get? "alice" = some .empty ∧
    (start.run (ops ++ [.advance 1])).get? "alice" ≠ some .empty ∧
    (start.run (ops ++ [.advance 1])).getFromFallback? "alice" = some .empty := by
  intro s start ops
  have built : s.build = .ok start.cache := rfl
  obtain ⟨hlaw, -⟩ := reads_follow_history s start.cache built 0
  have room : start.Roomy ops := by decide
  have room' : start.Roomy (ops ++ [.advance 1]) := by decide
  refine ⟨built, room', (hlaw ops room "alice" .empty).2.2 ?_, ?_,
    (hlaw _ room' "alice" .empty).1.2 ?_⟩
  · exact ⟨99, by decide, ops.take 2, ops.drop 3, rfl, by decide, rfl⟩
  · decide
  · exact ⟨100, ops.take 2, ops.drop 3 ++ [.advance 1], rfl, by decide, rfl⟩

end Cache
end RoleLookup
