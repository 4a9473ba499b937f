import RoleLookup.Log.Event
import RoleLookup.Roles
import RoleLookup.Text.Duration

/-!
# The two regions of the cache

Roles are kept in two regions over the same users: a primary region whose entries live for a fixed
time after they are written, and a fallback region whose entries do not age.

* `Region`, entries with the newest first; a region that is full drops its oldest entry, and a
  region without room stores nothing;
* `Region.HasRoomFor`, that a write drops no entry, and what a user's entry is after each operation;
* `Cache`, both regions, changed one at a time (`insert`, `erase`, `clear`) or together (`put`,
  `invalidate`, `invalidateAll`);
* `CacheSettings.build`, an empty cache, unless something speaks against one of its regions.

Times are in milliseconds of one clock.
-/

namespace RoleLookup

/-- The roles of a user, and when they were written. -/
structure Entry where
  user : String
  roles : RoleSet
  writtenAt : Nat
  deriving DecidableEq, Repr

/-! ### Lists with a key -/

section Keys

variable {α κ : Type} [DecidableEq κ] (key : α → κ) (xs : List α) (a b : κ)

/-- In a list without the items of one key, those of the other keys are found as before. -/
theorem find?_filter_key_ne : (xs.filter (key · != a)).find? (key · == b) =
    if a = b then none else xs.find? (key · == b) := by
  rw [List.find?_filter]
  split
  · rename_i h
    simp [h, List.find?_eq_none]
  · rename_i h
    congr 1
    funext x
    by_cases hx : key x = b
    · simp [hx, Ne.symm h]
    · simp [hx]

theorem find?_cons_key (x : α) : (x :: xs).find? (key · == b) =
    if key x = b then some x else xs.find? (key · == b) := by
  by_cases h : key x = b
  · rw [List.find?_cons_of_pos (by simpa using h), if_pos h]
  · rw [List.find?_cons_of_neg (by simpa using h), if_neg h]

end Keys

/-! ### One region -/

/-- One region: how many entries it has room for, how long they live, and the entries. -/
structure Region where
  capacity : Nat
  lifetime : Option Nat
  entries : List Entry := []
  deriving DecidableEq, Repr

namespace Region

/-- Whether an entry still counts. -/
def isAlive (r : Region) (now : Nat) (e : Entry) : Bool :=
  match r.lifetime with
  | none => true
  | some lifetime => now < e.writtenAt + lifetime

/-- The entry of a user, alive or not. -/
def find? (r : Region) (user : String) : Option Entry := r.entries.find? (·.user == user)

/-- The entry of a user, if it is alive. -/
def get? (r : Region) (now : Nat) (user : String) : Option Entry :=
  (r.find? user).filter (r.isAlive now)

/-- The region without the entry of a user. -/
def erase (r : Region) (user : String) : Region :=
  { r with entries := r.entries.filter (·.user != user) }

/-- The region without entries. -/
def clear (r : Region) : Region := { r with entries := [] }

/-- The region with an entry in place of the one of its user. -/
def insert (r : Region) (e : Entry) : Region :=
  { r with entries := (e :: (r.erase e.user).entries).take r.capacity }

/-- An entry of a user can be written without dropping one of another user. -/
def HasRoomFor (r : Region) (user : String) : Prop := (r.erase user).entries.length < r.capacity

instance (r : Region) (user : String) : Decidable (r.HasRoomFor user) :=
  inferInstanceAs (Decidable (_ < _))

@[simp] theorem lifetime_erase (r : Region) (user : String) :
    (r.erase user).lifetime = r.lifetime := rfl

@[simp] theorem lifetime_clear (r : Region) : r.clear.lifetime = r.lifetime := rfl

@[simp] theorem lifetime_insert (r : Region) (e : Entry) : (r.insert e).lifetime = r.lifetime := rfl

theorem get?_of_lifetime {r : Region} {age : Nat} (h : r.lifetime = some age) (now : Nat)
    (user : String) : r.get? now user = (r.find? user).filter (now < ·.writtenAt + age) := by
  have hall : r.isAlive now = fun e => decide (now < e.writtenAt + age) := by
    funext e
    simp [isAlive, h]
  rw [get?, hall]

theorem get?_of_ageless {r : Region} (h : r.lifetime = none) (now : Nat) (user : String) :
    r.get? now user = r.find? user := by
  have hall : r.isAlive now = fun _ => true := by
    funext e
    simp [isAlive, h]
  rw [get?, hall]
  cases r.find? user <;> rfl

@[simp] theorem find?_clear (r : Region) (user : String) : r.clear.find? user = none := rfl

@[simp] theorem find?_erase (r : Region) (user u : String) :
    (r.erase user).find? u = if user = u then none else r.find? u :=
  find?_filter_key_ne Entry.user r.entries user u

theorem find?_cons_erase (r : Region) (e : Entry) (u : String) :
    (e :: (r.erase e.user).entries).find? (·.user == u) =
      if e.user = u then some e else r.find? u := by
  rw [find?_cons_key Entry.user]
  split
  · rfl
  · rename_i h
    exact (find?_erase r e.user u).trans (if_neg h)

/-- An entry found after a write is the written one if it is of its user, and was there before
otherwise. -/
theorem find?_insert_cases {r : Region} {e x : Entry} {u : String}
    (h : (r.insert e).find? u = some x) :
    (e.user = u ∧ x = e) ∨ (e.user ≠ u ∧ r.find? u = some x) := by
  have h' := (List.take_prefix r.capacity (e :: (r.erase e.user).entries)).find?_eq_some h
  rw [find?_cons_erase] at h'
  split at h'
  · rename_i hu
    exact .inl ⟨hu, (Option.some.inj h').symm⟩
  · rename_i hu
    exact .inr ⟨hu, h'⟩

theorem find?_insert {r : Region} {e : Entry} (room : r.HasRoomFor e.user) (u : String) :
    (r.insert e).find? u = if e.user = u then some e else r.find? u := by
  have hall : (r.insert e).entries = e :: (r.erase e.user).entries :=
    List.take_of_length_le room
  unfold find?
  rw [hall]
  exact find?_cons_erase r e u

end Region

/-! ### Both regions -/

/-- How much the cache holds, for how long, and in how many parts. -/
structure CacheSettings where
  /-- Room of each region. -/
  maxEntries : Nat := 500
  /-- Lifetime of the entries of the primary region. -/
  timeToLive : Nat := 300000
  /-- Number of parts of each region that are locked on their own. -/
  concurrencyLevel : Nat := 16
  deriving DecidableEq, Repr

/-- One of the two regions. -/
inductive Tier
  | primary
  | fallback
  deriving DecidableEq, Repr

/-- The primary and the fallback region. -/
structure Cache where
  primary : Region
  fallback : Region
  deriving DecidableEq, Repr

/-- Why there is no cache. -/
inductive CacheSettings.Error
  | noParts
  | lifetimeTooLong
  deriving DecidableEq, Repr

/-- Wording of the refusal. -/
def CacheSettings.Error.message : CacheSettings.Error → String
  | .noParts => "assertion failed: num_segments != 0"
  | .lifetimeTooLong => "time_to_live is longer than 1000 years"

/-- Longest lifetime of an entry: a thousand years of 365 days. -/
def longestLifetime : Nat := 1000 * 365 * 24 * 3600 * 1000

/-- What speaks against a region: it has no parts, or its entries would live too long. -/
def Region.flaw? (parts : Nat) (lifetime : Option Nat) : Option CacheSettings.Error :=
  if parts = 0 then some .noParts
  else if lifetime.any (longestLifetime < ·) then some .lifetimeTooLong
  else none

/-- Number of parts of a region. -/
def CacheSettings.parts (s : CacheSettings) : Nat := max s.concurrencyLevel 1

/-- What speaks against the cache of some settings. The primary region is made first. -/
def CacheSettings.flaw? (s : CacheSettings) : Option CacheSettings.Error :=
  (Region.flaw? s.parts (some s.timeToLive)).or (Region.flaw? s.parts none)

/-- The empty cache of some settings. -/
def CacheSettings.build (s : CacheSettings) : Except CacheSettings.Error Cache :=
  match s.flaw? with
  | some e => .error e
  | none => .ok ⟨⟨s.maxEntries, some s.timeToLive, []⟩, ⟨s.maxEntries, none, []⟩⟩

/-- The settings in one line. -/
def CacheSettings.text (s : CacheSettings) : String :=
  "CacheConfig \x7b max_entries: " ++ toString s.maxEntries ++
    ", ttl: " ++ (Duration.ofMillis s.timeToLive).text ++
    ", concurrency_level: " ++ toString s.concurrencyLevel ++ " \x7d"

namespace Cache

/-- The region of a tier. -/
def region (c : Cache) : Tier → Region
  | .primary => c.primary
  | .fallback => c.fallback

/-- The cache with one region changed. -/
def modify (c : Cache) (f : Region → Region) : Tier → Cache
  | .primary => { c with primary := f c.primary }
  | .fallback => { c with fallback := f c.fallback }

/-- Writes an entry into one region. -/
def insert (c : Cache) (t : Tier) (e : Entry) : Cache := c.modify (·.insert e) t

/-- Takes the entry of a user out of one region. -/
def erase (c : Cache) (t : Tier) (user : String) : Cache := c.modify (·.erase user) t

/-- Empties one region. -/
def clear (c : Cache) (t : Tier) : Cache := c.modify (·.clear) t

/-- Writes the roles of a user into both regions. -/
def put (c : Cache) (now : Nat) (user : String) (roles : RoleSet) : Cache :=
  let e : Entry := ⟨user, roles, now⟩
  (c.insert .primary e).insert .fallback e

/-- The roles of a user that are still young. -/
def get? (c : Cache) (now : Nat) (user : String) : Option RoleSet :=
  (c.primary.get? now user).map (·.roles)

/-- The last known roles of a user. -/
def getFromFallback? (c : Cache) (now : Nat) (user : String) : Option RoleSet :=
  (c.fallback.get? now user).map (·.roles)

/-- Forgets a user. -/
def invalidate (c : Cache) (user : String) : Cache :=
  (c.erase .primary user).erase .fallback user

/-- Forgets all users. -/
def invalidateAll (c : Cache) : Cache := (c.clear .primary).clear .fallback

/-- Roles of a user can be written without dropping those of another user. -/
def HasRoomFor (c : Cache) (user : String) : Prop :=
  c.primary.HasRoomFor user ∧ c.fallback.HasRoomFor user

instance (c : Cache) (user : String) : Decidable (c.HasRoomFor user) :=
  inferInstanceAs (Decidable (_ ∧ _))

@[simp] theorem region_modify (c : Cache) (f : Region → Region) (t t' : Tier) :
    (c.modify f t).region t' = if t' = t then f (c.region t') else c.region t' := by
  cases t <;> cases t' <;> rfl

@[simp] theorem region_insert (c : Cache) (t t' : Tier) (e : Entry) :
    (c.insert t e).region t' = if t' = t then (c.region t').insert e else c.region t' :=
  region_modify c (·.insert e) t t'

@[simp] theorem region_erase (c : Cache) (t t' : Tier) (user : String) :
    (c.erase t user).region t' = if t' = t then (c.region t').erase user else c.region t' :=
  region_modify c (·.erase user) t t'

@[simp] theorem region_clear (c : Cache) (t t' : Tier) :
    (c.clear t).region t' = if t' = t then (c.region t').clear else c.region t' :=
  region_modify c (·.clear) t t'

@[simp] theorem region_put (c : Cache) (now : Nat) (user : String) (roles : RoleSet) (t : Tier) :
    (c.put now user roles).region t = (c.region t).insert ⟨user, roles, now⟩ := by
  cases t <;> rfl

@[simp] theorem region_invalidate (c : Cache) (user : String) (t : Tier) :
    (c.invalidate user).region t = (c.region t).erase user := by
  cases t <;> rfl

@[simp] theorem region_invalidateAll (c : Cache) (t : Tier) :
    c.invalidateAll.region t = (c.region t).clear := by
  cases t <;> rfl

theorem HasRoomFor.region {c : Cache} {user : String} (h : c.HasRoomFor user) (t : Tier) :
    (c.region t).HasRoomFor user := by
  cases t with
  | primary => exact h.1
  | fallback => exact h.2

theorem find?_put {c : Cache} {user : String} (room : c.HasRoomFor user) (now : Nat)
    (roles : RoleSet) (t : Tier) (u : String) : ((c.put now user roles).region t).find? u =
      if user = u then some ⟨user, roles, now⟩ else (c.region t).find? u := by
  rw [region_put]
  exact Region.find?_insert (room.region t) u

theorem find?_of_get? {c : Cache} {now : Nat} {user : String} {roles : RoleSet}
    (h : c.get? now user = some roles) :
    ∃ e, (c.region .primary).find? user = some e ∧ e.roles = roles := by
  obtain ⟨e, he, hroles⟩ := Option.map_eq_some_iff.1 h
  exact ⟨e, (Option.filter_eq_some_iff.1 he).1, hroles⟩

theorem find?_of_getFromFallback? {c : Cache} {now : Nat} {user : String} {roles : RoleSet}
    (h : c.getFromFallback? now user = some roles) :
    ∃ e, (c.region .fallback).find? user = some e ∧ e.roles = roles := by
  obtain ⟨e, he, hroles⟩ := Option.map_eq_some_iff.1 h
  exact ⟨e, (Option.filter_eq_some_iff.1 he).1, hroles⟩

/-! ### What is logged -/

/-- An event of the cache. -/
def event (level : Log.Level) (message : String) (fields : List Log.Field) : Log.Event :=
  ⟨level, "tiny_roles_business::cache", some message, fields, []⟩

/-- Logged when roles are written. -/
def putEvent (user : String) : Log.Event :=
  event .trace "caching roles" [⟨"user", .text user⟩]

/-- Logged when the last known roles of a user are read, with their age. -/
def fallbackEvents (c : Cache) (now : Nat) (user : String) : List Log.Event :=
  ((c.fallback.get? now user).map fun e =>
    event .debug "fallback hit"
      [⟨"user", .text user⟩, ⟨"age", .shown (Duration.ofMillis (now - e.writtenAt)).text⟩]).toList

end Cache

end RoleLookup
