import RoleLookup.Cache
import RoleLookup.Directory.Settings
import RoleLookup.Health.Cadence
import RoleLookup.Log.Settings

/-!
# Configuration

* `Configuration`, everything that can be set: the directory, the cache, the cadences of the
  health checks and the log;
* `HealthSettings.fast`, `HealthSettings.slow`, the cadences that are kept.
-/

namespace RoleLookup

/-- How often health checks run, in seconds. -/
structure HealthSettings where
  /-- For dashboards. -/
  fastCadence : Nat := 10
  /-- For the directory alone. -/
  slowCadence : Nat := 900
  deriving DecidableEq, Repr

namespace HealthSettings

/-- The fast cadence that is kept, in seconds. -/
def fast (s : HealthSettings) : Nat := max s.fastCadence 1

/-- The slow cadence that is kept, in seconds. -/
def slow (s : HealthSettings) : Nat := max s.slowCadence 1

end HealthSettings

/-- Everything that can be set. -/
structure Configuration where
  directory : Directory.Settings
  cache : CacheSettings := {}
  /-- Whether lookups that miss share the calls of the directory. -/
  coalesceMisses : Bool := false
  health : HealthSettings := {}
  log : Log.Settings := {}
  deriving DecidableEq, Repr

end RoleLookup
