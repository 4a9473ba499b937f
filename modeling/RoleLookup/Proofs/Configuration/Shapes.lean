import RoleLookup.Configuration.Document
import RoleLookup.Proofs.Yaml.Amendments

/-!
# Shapes of the sections of a configuration

* `directoryDefaults` and others, the members of each section, with nodes that say the defaults that
  are documented for them;
* `shape`, the shape of a configuration, whose sections have their defaults spelled out or are
  empty;
* `respects_decoder`, the reader of a configuration respects it.
-/

namespace RoleLookup.Configuration

open Yaml.Decode
open Yaml (Node)

/-! ### Documented defaults -/

/-- A record with a default for each member that may be left out. -/
def sectionNode (spelled : Bool) (members : List (String × Option Yaml.Node)) : Yaml.Node :=
  mappingOf (if spelled then members.filterMap fun m => m.2.map (m.1, ·) else [])

/-- The members of the directory section. -/
def directoryDefaults : List (String × Option Yaml.Node) :=
  [("host", none), ("port", none), ("tls", some (word "false")), ("trust store", some (word "~")),
    ("trust store password", some (word "~")), ("bind dn", some (word "~")),
    ("bind password", some (word "~")), ("search base", none),
    ("user id attribute", some (word "uid")), ("group attribute", some (word "memberOf")),
    ("pool size", some (word "5")), ("max connection age in ms", some (word "15000")),
    ("connect timeout in ms", some (word "3000")), ("response timeout in ms", some (word "3000")),
    ("keep alive", some (word "true")), ("debug", some (word "false")),
    ("strict ambiguity", some (word "false"))]

/-- The members of the cache section. -/
def cacheDefaults : List (String × Option Yaml.Node) :=
  [("max entries", some (word "500")), ("ttl in ms", some (word "300000")),
    ("concurrency level", some (word "16")), ("coalesce misses", some (word "false"))]

/-- The members of the health section. -/
def healthDefaults : List (String × Option Yaml.Node) :=
  [("fast cadence in seconds", some (word "10")), ("slow cadence in seconds", some (word "900"))]

/-- The members of the JSON layout. -/
def jsonDefaults : List (String × Option Yaml.Node) :=
  [("flatten", some (word "false")), ("current span", some (word "false")),
    ("span list", some (word "false"))]

/-- The members of a time stamp. -/
def timeDefaults : List (String × Option Yaml.Node) := [("format", some (word "%F %T"))]

/-- The members of the fields of a log line. -/
def fieldDefaults : List (String × Option Yaml.Node) :=
  [("ansi", some (word "true")), ("file", some (word "false")), ("level", some (word "true")),
    ("line number", some (word "false")), ("target", some (word "true")),
    ("thread id", some (word "false")), ("thread name", some (word "false")),
    ("span events", some (word "false")), ("time", some (word "system"))]

/-- The members of the log section. -/
def logDefaults (spelled : Bool) : List (String × Option Yaml.Node) :=
  [("format", some (word "full")), ("fields", some (sectionNode spelled fieldDefaults)),
    ("filter", some (.sequence none [word "info"] true))]

/-- The sections of a configuration. -/
def sectionDefaults (spelled : Bool) : List (String × Option Yaml.Node) :=
  [("directory", none), ("cache", some (sectionNode spelled cacheDefaults)),
    ("health", some (sectionNode spelled healthDefaults)),
    ("log", some (sectionNode spelled (logDefaults spelled)))]

/-! ### Records of values -/

/-- Nothing but values. -/
def values : String → Shape := fun _ => .value

/-- A value with a default. -/
theorem defaulting {α : Type} {members : List (String × Option Yaml.Node)}
    {inside : String → Shape} {name : String} {decoder : Decoder α} {x : α} (dflt : Yaml.Node)
    (h : default? members name = some dflt) (hvalue : inside name = .value)
    (said : ∀ d path, decoder d path dflt = .ok x) : Defaulting members inside name decoder x :=
  ⟨⟨dflt, h, said⟩, hvalue ▸ Shape.respects_value decoder⟩

/-- The shape of the directory section. -/
def directoryShape : Shape := .record directoryDefaults (by decide) values

theorem respects_directorySection : directoryShape.Respects directorySection := by
  have host : Mandatory directoryDefaults values "host" string :=
    ⟨rfl, Shape.respects_value string⟩
  have port : Mandatory directoryDefaults values "port" port := ⟨rfl, Shape.respects_value port⟩
  have base : Mandatory directoryDefaults values "search base" string :=
    ⟨rfl, Shape.respects_value string⟩
  have tls : Defaulting directoryDefaults values "tls" flag false :=
    defaulting (word "false") rfl rfl fun _ _ => rfl
  have store : Defaulting directoryDefaults values "trust store" (optional filePath) none :=
    defaulting (word "~") rfl rfl fun _ _ => rfl
  have storePassword :
      Defaulting directoryDefaults values "trust store password" (optional string) none :=
    defaulting (word "~") rfl rfl fun _ _ => rfl
  have bindDn : Defaulting directoryDefaults values "bind dn" (optional string) none :=
    defaulting (word "~") rfl rfl fun _ _ => rfl
  have bindPassword : Defaulting directoryDefaults values "bind password" (optional string) none :=
    defaulting (word "~") rfl rfl fun _ _ => rfl
  have userId : Defaulting directoryDefaults values "user id attribute" string "uid" :=
    defaulting (word "uid") rfl rfl fun _ _ => rfl
  have group : Defaulting directoryDefaults values "group attribute" string "memberOf" :=
    defaulting (word "memberOf") rfl rfl fun _ _ => rfl
  have pool : Defaulting directoryDefaults values "pool size" size 5 :=
    defaulting (word "5") rfl rfl fun _ _ => rfl
  have age : Defaulting directoryDefaults values "max connection age in ms" count 15000 :=
    defaulting (word "15000") rfl rfl fun _ _ => rfl
  have connect : Defaulting directoryDefaults values "connect timeout in ms" count 3000 :=
    defaulting (word "3000") rfl rfl fun _ _ => rfl
  have response : Defaulting directoryDefaults values "response timeout in ms" count 3000 :=
    defaulting (word "3000") rfl rfl fun _ _ => rfl
  have alive : Defaulting directoryDefaults values "keep alive" flag true :=
    defaulting (word "true") rfl rfl fun _ _ => rfl
  have debug : Defaulting directoryDefaults values "debug" flag false :=
    defaulting (word "false") rfl rfl fun _ _ => rfl
  have strict : Defaulting directoryDefaults values "strict ambiguity" flag false :=
    defaulting (word "false") rfl rfl fun _ _ => rfl
  refine respects_record rfl ?_ fun d path r r' r'' h => ?_
  · simp only [directoryMembers, List.mem_cons, List.not_mem_nil, or_false, forall_eq_or_imp,
      forall_eq]
    exact
      ⟨host.suits, port.suits, tls.suits, store.suits, storePassword.suits, bindDn.suits,
      bindPassword.suits, base.suits, userId.suits, group.suits, pool.suits, age.suits,
      connect.suits, response.suits, alive.suits, debug.suits, strict.suits⟩
  · -- in the order in which the reader asks for them
    exact (host.keeps (h _)).bind fun _ _ => (port.keeps (h _)).bind fun _ _ =>
      (base.keeps (h _)).bind fun _ _ => (tls.keeps (h _)).bind fun _ _ =>
      (store.keeps (h _)).bind fun _ _ => (storePassword.keeps (h _)).bind fun _ _ =>
      (bindDn.keeps (h _)).bind fun _ _ => (bindPassword.keeps (h _)).bind fun _ _ =>
      (userId.keeps (h _)).bind fun _ _ => (group.keeps (h _)).bind fun _ _ =>
      (pool.keeps (h _)).bind fun _ _ => (age.keeps (h _)).bind fun _ _ =>
      (connect.keeps (h _)).bind fun _ _ => (response.keeps (h _)).bind fun _ _ =>
      (alive.keeps (h _)).bind fun _ _ => (debug.keeps (h _)).bind fun _ _ =>
      (strict.keeps (h _)).bind fun _ _ => .pure _ _

/-- The shape of the cache section. -/
def cacheShape : Shape := .record cacheDefaults (by decide) values

theorem respects_cacheSection : cacheShape.Respects cacheSection := by
  have entries : Defaulting cacheDefaults values "max entries" count 500 :=
    defaulting (word "500") rfl rfl fun _ _ => rfl
  have ttl : Defaulting cacheDefaults values "ttl in ms" count 300000 :=
    defaulting (word "300000") rfl rfl fun _ _ => rfl
  have level : Defaulting cacheDefaults values "concurrency level" size 16 :=
    defaulting (word "16") rfl rfl fun _ _ => rfl
  have coalesce : Defaulting cacheDefaults values "coalesce misses" flag false :=
    defaulting (word "false") rfl rfl fun _ _ => rfl
  refine respects_record rfl ?_ fun d path r r' r'' h => ?_
  · simp only [cacheMembers, List.mem_cons, List.not_mem_nil, or_false, forall_eq_or_imp,
      forall_eq]
    exact ⟨entries.suits, ttl.suits, level.suits, coalesce.suits⟩
  · exact (entries.keeps (h _)).bind fun _ _ => (ttl.keeps (h _)).bind fun _ _ =>
      (level.keeps (h _)).bind fun _ _ => (coalesce.keeps (h _)).bind fun _ _ => .pure _ _

/-- The shape of the health section. -/
def healthShape : Shape := .record healthDefaults (by decide) values

theorem respects_healthSection : healthShape.Respects healthSection := by
  have fast : Defaulting healthDefaults values "fast cadence in seconds" count 10 :=
    defaulting (word "10") rfl rfl fun _ _ => rfl
  have slow : Defaulting healthDefaults values "slow cadence in seconds" count 900 :=
    defaulting (word "900") rfl rfl fun _ _ => rfl
  refine respects_record rfl ?_ fun d path r r' r'' h => ?_
  · simp only [healthMembers, List.mem_cons, List.not_mem_nil, or_false, forall_eq_or_imp,
      forall_eq]
    exact ⟨fast.suits, slow.suits⟩
  · exact (fast.keeps (h _)).bind fun _ _ => (slow.keeps (h _)).bind fun _ _ => .pure _ _

/-! ### The log section -/

/-- The shape of the JSON layout. -/
def jsonShape : Shape := .record jsonDefaults (by decide) values

theorem respects_jsonFormat : jsonShape.Respects jsonFormat := by
  have flatten : Defaulting jsonDefaults values "flatten" flag false :=
    defaulting (word "false") rfl rfl fun _ _ => rfl
  have current : Defaulting jsonDefaults values "current span" flag false :=
    defaulting (word "false") rfl rfl fun _ _ => rfl
  have spans : Defaulting jsonDefaults values "span list" flag false :=
    defaulting (word "false") rfl rfl fun _ _ => rfl
  refine respects_record rfl ?_ fun d path r r' r'' h => ?_
  · simp only [jsonMembers, List.mem_cons, List.not_mem_nil, or_false, forall_eq_or_imp, forall_eq]
    exact ⟨flatten.suits, current.suits, spans.suits⟩
  · exact (flatten.keeps (h _)).bind fun _ _ => (current.keeps (h _)).bind fun _ _ =>
      (spans.keeps (h _)).bind fun _ _ => .pure _ _

/-- The shape of a layout. -/
def formatShape : Shape := .tagged fun name => if name = "json" then jsonShape else .value

theorem respects_format : formatShape.Respects format := by
  refine respects_choice ?_
  simp only [List.mem_cons, List.not_mem_nil, or_false, forall_eq_or_imp, forall_eq]
  exact ⟨rfl, rfl, rfl, respects_jsonFormat⟩

/-- The shape of a time stamp with a format of its own. -/
def timeFormatShape : Shape := .record timeDefaults (by decide) values

theorem respects_timeFormat (expected : String) :
    timeFormatShape.Respects (timeFormat expected) := by
  have format : Defaulting timeDefaults values "format" string Log.defaultTimeFormat :=
    defaulting (word "%F %T") rfl rfl fun _ _ => rfl
  refine respects_record rfl ?_ fun d path r r' r'' h => format.keeps (h _)
  rw [List.forall_mem_singleton]
  exact format.suits

/-- The shape of a time stamp. -/
def timeShape : Shape :=
  .tagged fun name => if name = "utc" ∨ name = "local" then timeFormatShape else .value

theorem respects_time : timeShape.Respects time := by
  have stamp (expected : String) (f : String → Log.Time) :
      timeFormatShape.Respects fun d path n => (timeFormat expected d path n).map f :=
    fun d path n n' n'' hn => (respects_timeFormat expected d path n n' n'' hn).map f
  refine respects_choice ?_
  simp only [List.mem_cons, List.not_mem_nil, or_false, forall_eq_or_imp, forall_eq]
  exact ⟨rfl, rfl, rfl, stamp _ _, stamp _ _⟩

/-- The shapes within the fields of a log line. -/
def withinFields (name : String) : Shape := if name = "time" then timeShape else .value

/-- The shape of the fields of a log line. -/
def fieldsShape : Shape := .record fieldDefaults (by decide) withinFields

theorem respects_fields : fieldsShape.Respects fields := by
  have ansi : Defaulting fieldDefaults withinFields "ansi" flag true :=
    defaulting (word "true") rfl rfl fun _ _ => rfl
  have file : Defaulting fieldDefaults withinFields "file" flag false :=
    defaulting (word "false") rfl rfl fun _ _ => rfl
  have level : Defaulting fieldDefaults withinFields "level" flag true :=
    defaulting (word "true") rfl rfl fun _ _ => rfl
  have line : Defaulting fieldDefaults withinFields "line number" flag false :=
    defaulting (word "false") rfl rfl fun _ _ => rfl
  have target : Defaulting fieldDefaults withinFields "target" flag true :=
    defaulting (word "true") rfl rfl fun _ _ => rfl
  have threadId : Defaulting fieldDefaults withinFields "thread id" flag false :=
    defaulting (word "false") rfl rfl fun _ _ => rfl
  have threadName : Defaulting fieldDefaults withinFields "thread name" flag false :=
    defaulting (word "false") rfl rfl fun _ _ => rfl
  have events : Defaulting fieldDefaults withinFields "span events" flag false :=
    defaulting (word "false") rfl rfl fun _ _ => rfl
  have time : Defaulting fieldDefaults withinFields "time" time .system :=
    ⟨⟨word "system", rfl, fun _ _ => rfl⟩, respects_time⟩
  refine respects_record rfl ?_ fun d path r r' r'' h => ?_
  · simp only [fieldMembers, List.mem_cons, List.not_mem_nil, or_false, forall_eq_or_imp,
      forall_eq]
    exact ⟨ansi.suits, file.suits, level.suits, line.suits, target.suits, threadId.suits,
      threadName.suits, events.suits, time.suits⟩
  · exact (ansi.keeps (h _)).bind fun _ _ => (file.keeps (h _)).bind fun _ _ =>
      (level.keeps (h _)).bind fun _ _ => (line.keeps (h _)).bind fun _ _ =>
      (target.keeps (h _)).bind fun _ _ => (threadId.keeps (h _)).bind fun _ _ =>
      (threadName.keeps (h _)).bind fun _ _ => (events.keeps (h _)).bind fun _ _ =>
      (time.keeps (h _)).bind fun _ _ => .pure _ _

/-- The shapes within the log section. -/
def withinLog (name : String) : Shape :=
  if name = "format" then formatShape else if name = "fields" then fieldsShape else .value

/-- The shape of the log section. -/
def logShape (spelled : Bool) : Shape :=
  .record (logDefaults spelled) (by simp [logDefaults]) withinLog

theorem respects_logSection (spelled : Bool) : (logShape spelled).Respects logSection := by
  have format : Defaulting (logDefaults spelled) withinLog "format" format .full :=
    ⟨⟨word "full", rfl, fun _ _ => rfl⟩, respects_format⟩
  have fields : Defaulting (logDefaults spelled) withinLog "fields" fields {} :=
    ⟨⟨sectionNode spelled fieldDefaults, rfl, by cases spelled <;> exact fun _ _ => rfl⟩,
      respects_fields⟩
  have filter : Defaulting (logDefaults spelled) withinLog "filter" filter ["info"] :=
    defaulting (.sequence none [word "info"] true) rfl rfl fun _ _ => rfl
  refine respects_record rfl ?_ fun d path r r' r'' h => ?_
  · simp only [logMembers, List.mem_cons, List.not_mem_nil, or_false, forall_eq_or_imp, forall_eq]
    exact ⟨format.suits, fields.suits, filter.suits⟩
  · exact (format.keeps (h _)).bind fun _ _ => (fields.keeps (h _)).bind fun _ _ =>
      (filter.keeps (h _)).bind fun _ _ => .pure _ _

/-! ### The whole -/

/-- The shapes of the sections. -/
def withinConfiguration (spelled : Bool) (name : String) : Shape :=
  if name = "directory" then directoryShape
  else if name = "cache" then cacheShape
  else if name = "health" then healthShape
  else logShape spelled

/-- The shape of a configuration. The defaults of its sections are spelled out, or empty. -/
def shape (spelled : Bool) : Shape :=
  .record (sectionDefaults spelled) (by simp [sectionDefaults]) (withinConfiguration spelled)

theorem respects_decoder (spelled : Bool) : (shape spelled).Respects decoder := by
  have directory : Mandatory (sectionDefaults spelled) (withinConfiguration spelled) "directory"
      directorySection :=
    ⟨rfl, respects_directorySection⟩
  have cache : Defaulting (sectionDefaults spelled) (withinConfiguration spelled) "cache"
      cacheSection ({}, false) :=
    ⟨⟨sectionNode spelled cacheDefaults, rfl, by cases spelled <;> exact fun _ _ => rfl⟩,
      respects_cacheSection⟩
  have health : Defaulting (sectionDefaults spelled) (withinConfiguration spelled) "health"
      healthSection {} :=
    ⟨⟨sectionNode spelled healthDefaults, rfl, by cases spelled <;> exact fun _ _ => rfl⟩,
      respects_healthSection⟩
  have log : Defaulting (sectionDefaults spelled) (withinConfiguration spelled) "log"
      logSection {} :=
    ⟨⟨sectionNode spelled (logDefaults spelled), rfl, by cases spelled <;> exact fun _ _ => rfl⟩,
      respects_logSection spelled⟩
  refine respects_record rfl ?_ fun d path r r' r'' h => ?_
  · simp only [sections, List.mem_cons, List.not_mem_nil, or_false, forall_eq_or_imp, forall_eq]
    exact ⟨directory.suits, cache.suits, health.suits, log.suits⟩
  · exact (directory.keeps (h _)).bind fun _ _ => (cache.keeps (h _)).bind fun _ _ =>
      (health.keeps (h _)).bind fun _ _ => (log.keeps (h _)).bind fun _ _ => .pure _ _

end RoleLookup.Configuration
