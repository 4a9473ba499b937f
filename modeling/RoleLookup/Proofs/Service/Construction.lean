import RoleLookup.Configuration.Document
import RoleLookup.Proofs.Results
import RoleLookup.Service

/-!
# What becomes of a configuration

The numbers of a configuration end in regions, pools and reporters, each of which has its own
demands. Where zero is not allowed it is raised to one. Against long lives nothing is done.

* `CacheSettings.flaw?_eq_some`, all that can speak against a cache;
* `build_of_refused`, `build_of_connector`, the course of a construction;
* `crashes_only_of_long_lives`, when a configuration gives a service, an error or a crash;
* `crashes_of_long_life`, a file that is read without complaint and then ends the program.
-/

namespace RoleLookup

/-! ### Reading it -/

theorem Configuration.read_eq_of_ok {files : Files} {path : String} {c : Configuration}
    (h : (read files path).2 = .ok c) : read files path = ([readEvent path], .ok c) := by
  unfold read at h ⊢
  split at h
  · cases h
  · exact Prod.ext rfl h

/-! ### The cache -/

namespace CacheSettings

variable {s : CacheSettings} {e : CacheSettings.Error}

theorem parts_pos (s : CacheSettings) : 0 < s.parts :=
  Nat.lt_of_lt_of_le Nat.one_pos (Nat.le_max_right ..)

/-- Zero parts are raised to one, so only the lifetime can speak against a cache. -/
theorem flaw?_eq_some :
    s.flaw? = some e ↔ e = .lifetimeTooLong ∧ longestLifetime < s.timeToLive := by
  have parted : s.parts ≠ 0 := Nat.pos_iff_ne_zero.1 s.parts_pos
  by_cases long : longestLifetime < s.timeToLive
  · simp [flaw?, Region.flaw?, parted, long, eq_comm]
  · simp [flaw?, Region.flaw?, parted, long]

theorem flaw?_eq_none : s.flaw? = none ↔ s.timeToLive ≤ longestLifetime := by
  rw [← Option.not_isSome_iff_eq_none, Option.isSome_iff_exists, ← Nat.not_lt]
  simp [flaw?_eq_some]

theorem build_of_flaw (h : s.flaw? = some e) : s.build = .error e := by
  simp [build, h]

theorem build_of_no_flaw (h : s.flaw? = none) :
    s.build = .ok ⟨⟨s.maxEntries, some s.timeToLive, []⟩, ⟨s.maxEntries, none, []⟩⟩ := by
  simp [build, h]

end CacheSettings

/-! ### The service -/

namespace Service

variable {ν : Type} {c : Configuration} {files : Files} {n : ν} {k : Directory.Connector}

/-- An error of the directory comes before everything else. -/
theorem build_of_refused {e : Directory.Error} (h : (c.directory.connector files).2 = .error e) :
    (build c files n).2 = .error (.directory e) := by
  simp only [build, h]

theorem build_of_flaw {e : CacheSettings.Error} (h : (c.directory.connector files).2 = .ok k)
    (flaw : c.cache.flaw? = some e) : (build c files n).2 = .error (.cache e) := by
  simp only [build, h, CacheSettings.build_of_flaw flaw]

theorem build_of_connector (h : (c.directory.connector files).2 = .ok k)
    (flawless : c.cache.flaw? = none) : ∃ s, (build c files n).2 = .ok s ∧
      s.client = .ofSettings c.directory k ∧ s.health = c.health ∧ s.provider =
        .ofCache c.coalesceMisses ⟨⟨c.cache.maxEntries, some c.cache.timeToLive, []⟩,
          ⟨c.cache.maxEntries, none, []⟩⟩ := by
  simp only [build, h, CacheSettings.build_of_no_flaw flawless]
  exact ⟨_, rfl, rfl, rfl, rfl⟩

/-- **Only long lives crash.** Every configuration gives a service if its directory can be reached
at all, unless its entries would live for more than a thousand years; then the program crashes. An
error of the directory is reported as it is. In a service the pool has room for a connection and no
reporter runs without pause. -/
theorem crashes_only_of_long_lives (c : Configuration) (files : Files) (n : ν) :
    let setup := (c.directory.connector files).2
    let built := (build c files n).2
    (∀ e, built = .error (.directory e) ↔ setup = .error e) ∧
    (∀ e, built = .error (.cache e) ↔ e = .lifetimeTooLong ∧
      longestLifetime < c.cache.timeToLive ∧ ∃ k, setup = .ok k) ∧
    ((∃ s, built = .ok s) ↔ c.cache.timeToLive ≤ longestLifetime ∧ ∃ k, setup = .ok k) ∧
    ∀ s, built = .ok s → 0 < s.client.pool.size ∧
      ∀ net, ∀ r ∈ s.reporters net, 1000 ≤ r.reporter.period := by
  intro setup built
  cases hsetup : setup with
  | error refusal =>
    have hbuilt : built = .error (.directory refusal) := build_of_refused hsetup
    simp [hbuilt]
  | ok k =>
    cases flaw : c.cache.flaw? with
    | some e =>
      have hbuilt : built = .error (.cache e) := build_of_flaw hsetup flaw
      obtain ⟨rfl, long⟩ := CacheSettings.flaw?_eq_some.1 flaw
      simp [hbuilt, long, eq_comm]
    | none =>
      obtain ⟨s, hbuilt, hclient, hhealth, -⟩ := build_of_connector (n := n) hsetup flaw
      have hbuilt : built = .ok s := hbuilt
      have short := CacheSettings.flaw?_eq_none.1 flaw
      refine ⟨by simp [hbuilt], by simp [hbuilt, Nat.not_lt.2 short], by simp [hbuilt, short], ?_⟩
      rintro t ht
      obtain rfl : s = t := Except.ok.inj (hbuilt.symm.trans ht)
      constructor
      · rw [hclient]
        exact Nat.lt_of_lt_of_le Nat.one_pos (Nat.le_max_right ..)
      · simp only [reporters, List.mem_cons, List.not_mem_nil, or_false]
        rintro net r (rfl | rfl)
        · simp only [Health.Reporter.ofPeriod, Health.Cadence.effective, HealthSettings.fast]
          omega
        · simp only [Health.Reporter.ofPeriod, Health.Cadence.effective, HealthSettings.slow]
          omega

/-- A file with a lifetime of a millisecond more than a thousand years. It is read without
complaint, and then the program crashes. -/
theorem crashes_of_long_life :
    let files : Files := fun _ => .ok (Text.bytes
      ("directory:\n  host: ldap\n  port: 389\n  search base: dc=example\n" ++
        "cache:\n  ttl in ms: 31536000000001\n"))
    ∃ c : Configuration, (Configuration.read files "roles.yml").2 = .ok c ∧
      (build c files ()).2 = .error (.cache .lifetimeTooLong) := by
  intro files
  let c : Configuration :=
    { directory := { host := "ldap", port := 389, searchBase := "dc=example" }
      cache := { timeToLive := 31536000000001 } }
  have hread : (Configuration.read files "roles.yml").2 = .ok c :=
    ok_of_toOption (by decide +kernel)
  obtain ⟨k, hk⟩ : ∃ k, (c.directory.connector files).2 = .ok k := by
    refine ⟨⟨⟨"ldap", some ⟨"", "", .name "ldap", some 389⟩, "", none, none⟩, false, 3000, 3000,
      none, "", ""⟩, ok_of_toOption (by decide +kernel)⟩
  refine ⟨c, hread, build_of_flaw hk (CacheSettings.flaw?_eq_some.2 ⟨rfl, by decide⟩)⟩

end Service
end RoleLookup
