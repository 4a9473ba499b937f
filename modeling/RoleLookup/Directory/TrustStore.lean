import RoleLookup.Certificate.Anchor
import RoleLookup.Certificate.Pem
import RoleLookup.Directory.Error
import RoleLookup.Directory.Settings
import RoleLookup.Files
import RoleLookup.Log.Event

/-!
# Trust stores

A trust store is a PEM bundle of certificates. Certificates that are not usable are skipped, and a
store without a usable one is refused.

* `TrustStore.load`, the number of usable certificates of a file;
* `connector`, the address, identity and trust of a directory, from its settings.
-/

namespace RoleLookup.Directory

open Log

/-- An event of this module about connections. -/
def connectEvent (level : Level) (message : String) (fields : List Field) : Event :=
  ⟨level, "tiny_roles_ldap::connect", some message, fields, []⟩

/-- An event of the set-up of a directory. -/
def setupEvent (level : Level) (message : String) (fields : List Field) : Event :=
  ⟨level, "tiny_roles_ldap::inject", some message, fields, []⟩

/-- Reads a trust store. -/
def TrustStore.load (files : Files) (path : String) : List Event × Except Error Nat :=
  match files path with
  | .error e => ([], .error (.trustStore path e))
  | .ok contents =>
    match Certificate.Pem.certificates contents with
    | .error e => ([], .error (.trustStore path e.message))
    | .ok ders =>
      let added := (ders.filter Certificate.isAnchor).length
      let ignored := ders.length - added
      let skipped :=
        if 0 < ignored then
          [connectEvent .warn "skipping unparsable certificates"
            [⟨"path", .shown path⟩, ⟨"ignored", .number ignored⟩]]
        else []
      if added = 0 then (skipped, .error (.emptyTrustStore path))
      else
        (skipped ++ [connectEvent .debug "loaded trust store"
          [⟨"path", .shown path⟩, ⟨"added", .number added⟩]], .ok added)

/-- How to open bound connections to one directory. -/
structure Connector where
  url : Url
  tls : Bool
  connectTimeout : Nat
  responseTimeout : Nat
  /-- Number of trusted authorities, if not those of the platform. -/
  authorities : Option Nat
  bindDn : String
  bindPassword : String
  deriving DecidableEq, Repr

/-- The connector that settings describe. A trust store counts only with TLS, and its password
never. -/
def Settings.connector (s : Settings) (files : Files) : List Event × Except Error Connector :=
  let (log, trust) : List Event × Except Error (Option Nat) :=
    match s.trustStore, s.tls with
    | some path, true =>
      let r := TrustStore.load files path
      (r.1, r.2.map some)
    | some path, false =>
      ([setupEvent .warn "trust store ignored without tls" [⟨"path", .shown path⟩]], .ok none)
    | none, _ => ([], .ok none)
  match trust with
  | .error e => (log, .error e)
  | .ok authorities =>
    let log :=
      if s.trustStorePassword.isSome then
        log ++ [setupEvent .warn
          "trust store password ignored, trust stores are read as PEM bundles" []]
      else log
    match s.url with
    | .error e => (log, .error (.url e))
    | .ok url =>
      (log, .ok ⟨url, s.tls, s.connectTimeout, s.responseTimeout, authorities, s.bindIdentity,
        s.password⟩)

end RoleLookup.Directory
