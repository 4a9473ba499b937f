import RoleLookup.Configuration.Basic
import RoleLookup.Files
import RoleLookup.Log.Event
import RoleLookup.Text.Utf8
import RoleLookup.Yaml.Decode

/-!
# Configuration documents

* `Configuration.decoder`, the configuration that a YAML document holds. Keys consist of words
  with spaces between them; everything but host, port and search base has a default;
* `Configuration.read`, the configuration in a file.
-/

namespace RoleLookup.Configuration

open Yaml
open Yaml.Decode

/-! ### Simple values -/

/-- A text. -/
def string : Decoder String := Decode.text "a string"

/-- Name of a file. -/
def filePath : Decoder String := Decode.text "path string"

/-- A port. -/
def port : Decoder Nat := unsigned "u16" (UInt16.size - 1)

/-- A count, or a length of time. -/
def count : Decoder Nat := unsigned "u64" (UInt64.size - 1)

/-- A number of things held in memory. -/
def size : Decoder Nat := unsigned "usize" (UInt64.size - 1)

/-! ### Directory -/

/-- The members of the directory section. -/
def directoryMembers : List Member :=
  [.of "host" string, .of "port" port, .of "tls" flag, .of "trust store" (optional filePath),
    .of "trust store password" (optional string), .of "bind dn" (optional string),
    .of "bind password" (optional string), .of "search base" string,
    .of "user id attribute" string, .of "group attribute" string, .of "pool size" size,
    .of "max connection age in ms" count, .of "connect timeout in ms" count,
    .of "response timeout in ms" count, .of "keep alive" flag, .of "debug" flag,
    .of "strict ambiguity" flag]

/-- The directory section. -/
def directorySection : Decoder Directory.Settings := fun d path n => do
  let ms ← written "struct Directory" directoryMembers d path n
  let host ← ms.required d path "host" string
  let port ← ms.required d path "port" port
  let searchBase ← ms.required d path "search base" string
  let s : Directory.Settings := { host, port, searchBase }
  return { s with
    tls := ← ms.withDefault d path "tls" flag s.tls
    trustStore := ← ms.withDefault d path "trust store" (optional filePath) none
    trustStorePassword := ← ms.withDefault d path "trust store password" (optional string) none
    bindDn := ← ms.withDefault d path "bind dn" (optional string) none
    bindPassword := ← ms.withDefault d path "bind password" (optional string) none
    userIdAttribute := ← ms.withDefault d path "user id attribute" string s.userIdAttribute
    groupAttribute := ← ms.withDefault d path "group attribute" string s.groupAttribute
    poolSize := ← ms.withDefault d path "pool size" size s.poolSize
    maxConnectionAge :=
      ← ms.withDefault d path "max connection age in ms" count s.maxConnectionAge
    connectTimeout := ← ms.withDefault d path "connect timeout in ms" count s.connectTimeout
    responseTimeout := ← ms.withDefault d path "response timeout in ms" count s.responseTimeout
    keepAlive := ← ms.withDefault d path "keep alive" flag s.keepAlive
    debug := ← ms.withDefault d path "debug" flag s.debug
    strictAmbiguity := ← ms.withDefault d path "strict ambiguity" flag s.strictAmbiguity }

/-! ### Cache and health -/

/-- The members of the cache section. -/
def cacheMembers : List Member :=
  [.of "max entries" count, .of "ttl in ms" count, .of "concurrency level" size,
    .of "coalesce misses" flag]

/-- The cache section: the cache, and whether lookups that miss share calls. -/
def cacheSection : Decoder (CacheSettings × Bool) := fun d path n => do
  let ms ← written "struct Cache" cacheMembers d path n
  let s : CacheSettings := {}
  let maxEntries ← ms.withDefault d path "max entries" count s.maxEntries
  let timeToLive ← ms.withDefault d path "ttl in ms" count s.timeToLive
  let concurrencyLevel ← ms.withDefault d path "concurrency level" size s.concurrencyLevel
  let coalesceMisses ← ms.withDefault d path "coalesce misses" flag false
  return ({ maxEntries, timeToLive, concurrencyLevel }, coalesceMisses)

/-- The members of the health section. -/
def healthMembers : List Member :=
  [.of "fast cadence in seconds" count, .of "slow cadence in seconds" count]

/-- The health section. -/
def healthSection : Decoder HealthSettings := fun d path n => do
  let ms ← written "struct Health" healthMembers d path n
  let s : HealthSettings := {}
  let fastCadence ← ms.withDefault d path "fast cadence in seconds" count s.fastCadence
  let slowCadence ← ms.withDefault d path "slow cadence in seconds" count s.slowCadence
  return { fastCadence, slowCadence }

/-! ### Log -/

/-- The members of the JSON layout. -/
def jsonMembers : List Member :=
  [.of "flatten" flag, .of "current span" flag, .of "span list" flag]

/-- The JSON layout. -/
def jsonFormat : Decoder Log.Format := fun d path n => do
  let ms ← written "struct variant Format::Json" jsonMembers d path n
  let flatten ← ms.withDefault d path "flatten" flag false
  let currentSpan ← ms.withDefault d path "current span" flag false
  let spanList ← ms.withDefault d path "span list" flag false
  return .json flatten currentSpan spanList

/-- A layout. -/
def format : Decoder Log.Format :=
  choice [.alone "compact" .compact, .alone "pretty" .pretty, .alone "full" .full,
    .record "json" jsonFormat]

/-- A time stamp with a format of its own. -/
def timeFormat (expected : String) : Decoder String := fun d path n => do
  let ms ← written expected [.of "format" string] d path n
  ms.withDefault d path "format" string Log.defaultTimeFormat

/-- Time in the zone of Greenwich. -/
def utcTime : Decoder Log.Time := fun d path n =>
  (timeFormat "struct variant Time::Utc" d path n).map .utc

/-- Time in the zone of the host. -/
def localTime : Decoder Log.Time := fun d path n =>
  (timeFormat "struct variant Time::Local" d path n).map .local

/-- A time stamp. -/
def time : Decoder Log.Time :=
  choice [.alone "none" .none, .alone "uptime" .uptime, .alone "system" .system,
    .record "utc" utcTime, .record "local" localTime]

/-- The members of the fields of a log line. -/
def fieldMembers : List Member :=
  [.of "ansi" flag, .of "file" flag, .of "level" flag, .of "line number" flag,
    .of "target" flag, .of "thread id" flag, .of "thread name" flag, .of "span events" flag,
    .of "time" time]

/-- The fields of a log line. -/
def fields : Decoder Log.Fields := fun d path n => do
  let ms ← written "struct Fields" fieldMembers d path n
  let s : Log.Fields := {}
  return {
    ansi := ← ms.withDefault d path "ansi" flag s.ansi
    file := ← ms.withDefault d path "file" flag s.file
    level := ← ms.withDefault d path "level" flag s.level
    lineNumber := ← ms.withDefault d path "line number" flag s.lineNumber
    target := ← ms.withDefault d path "target" flag s.target
    threadId := ← ms.withDefault d path "thread id" flag s.threadId
    threadName := ← ms.withDefault d path "thread name" flag s.threadName
    spanEvents := ← ms.withDefault d path "span events" flag s.spanEvents
    time := ← ms.withDefault d path "time" time s.time }

/-- The directives of a filter. -/
def filter : Decoder (List String) := sequence string

/-- The members of the log section. -/
def logMembers : List Member := [.of "format" format, .of "fields" fields, .of "filter" filter]

/-- The log section. -/
def logSection : Decoder Log.Settings := fun d path n => do
  let ms ← written "struct Log" logMembers d path n
  let s : Log.Settings := {}
  return {
    format := ← ms.withDefault d path "format" format s.format
    fields := ← ms.withDefault d path "fields" fields s.fields
    filter := ← ms.withDefault d path "filter" filter s.filter }

/-! ### The whole -/

/-- The sections of a configuration. -/
def sections : List Member :=
  [.of "directory" directorySection, .of "cache" cacheSection, .of "health" healthSection,
    .of "log" logSection]

/-- A configuration. -/
def decoder : Decoder Configuration := fun d path n => do
  let ms ← written "struct Config" sections d path n
  let directory ← ms.required d path "directory" directorySection
  let (cache, coalesceMisses) ← ms.withDefault d path "cache" cacheSection ({}, false)
  let health ← ms.withDefault d path "health" healthSection {}
  let log ← ms.withDefault d path "log" logSection {}
  return { directory, cache, coalesceMisses, health, log }

/-- The configuration that a text holds. -/
def ofText (s : String) : Except Decode.Error Configuration := document decoder s

/-! ### Files -/

/-- Why a file holds no configuration. -/
inductive Error
  | unreadable (path reason : String)
  | invalid (path : String) (cause : Decode.Error)
  deriving DecidableEq, Repr

/-- Wording of the failure to read a file as text. -/
def notText : String := "stream did not contain valid UTF-8"

/-- Wording of an error. -/
def Error.message : Error → String
  | .unreadable path reason => "failed to read " ++ path ++ ": " ++ reason
  | .invalid path cause => "invalid configuration in " ++ path ++ ": " ++ cause.message

/-- Logged when a file has been read. -/
def readEvent (path : String) : Log.Event :=
  ⟨.debug, "tiny_roles_main::config::parser", some "read configuration",
    [⟨"path", .shown path⟩], []⟩

/-- The text of a file. -/
def readText (files : Files) (path : String) : Except Error String := do
  let bytes ← (files path).mapError (.unreadable path)
  match Text.decode? bytes with
  | some s => return s
  | none => throw (.unreadable path notText)

/-- The configuration in a file. -/
def read (files : Files) (path : String) : List Log.Event × Except Error Configuration :=
  match readText files path with
  | .error e => ([], .error e)
  | .ok s => ([readEvent path], (ofText s).mapError (.invalid path))

end RoleLookup.Configuration
