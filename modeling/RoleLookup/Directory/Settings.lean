import RoleLookup.Text.Duration
import RoleLookup.Text.Quoted
import RoleLookup.Url.Basic

/-!
# Directory settings

* `Settings`, how to reach one directory and how to read its entries, with the default of every
  optional setting;
* `Settings.url`, the address of the directory;
* `Settings.text`, the settings in one line, without the two passwords.

All lengths of time are in milliseconds.
-/

namespace RoleLookup.Directory

/-- How to reach and read one directory. -/
structure Settings where
  host : String
  port : Nat
  tls : Bool := false
  /-- File with the certificates of the trusted authorities. -/
  trustStore : Option String := none
  trustStorePassword : Option String := none
  /-- Who asks; nobody in particular if absent. -/
  bindDn : Option String := none
  bindPassword : Option String := none
  searchBase : String
  userIdAttribute : String := "uid"
  groupAttribute : String := "memberOf"
  poolSize : Nat := 5
  maxConnectionAge : Nat := 15000
  connectTimeout : Nat := 3000
  responseTimeout : Nat := 3000
  keepAlive : Bool := true
  /-- Whether matched entries are logged more prominently. -/
  debug : Bool := false
  /-- Whether a lookup that matches several entries fails. -/
  strictAmbiguity : Bool := false
  deriving DecidableEq, Repr

namespace Settings

/-- Text of the address. -/
def urlText (s : Settings) : String :=
  (if s.tls then "ldaps" else "ldap") ++ "://" ++ s.host ++ ":" ++ toString s.port

/-- The address of the directory. -/
def url (s : Settings) : Except Url.Error Url := Url.parse s.urlText

/-- The name to bind with; empty for an anonymous session. -/
def bindIdentity (s : Settings) : String := s.bindDn.getD ""

/-- The password to bind with. -/
def password (s : Settings) : String := s.bindPassword.getD ""

/-- The settings in one line, without passwords. -/
def text (s : Settings) : String :=
  let millis (n : Nat) := (Duration.ofMillis n).text
  "DirectoryConfig \x7b host: " ++ Text.quoted s.host ++
    ", port: " ++ toString s.port ++
    ", tls: " ++ toString s.tls ++
    ", trust_store: " ++ Text.quotedOption s.trustStore ++
    ", bind_dn: " ++ Text.quotedOption s.bindDn ++
    ", search_base: " ++ Text.quoted s.searchBase ++
    ", user_id_attribute: " ++ Text.quoted s.userIdAttribute ++
    ", group_attribute: " ++ Text.quoted s.groupAttribute ++
    ", pool_size: " ++ toString s.poolSize ++
    ", max_connection_age: " ++ millis s.maxConnectionAge ++
    ", connect_timeout: " ++ millis s.connectTimeout ++
    ", response_timeout: " ++ millis s.responseTimeout ++
    ", keep_alive: " ++ toString s.keepAlive ++
    ", debug: " ++ toString s.debug ++
    ", strict_ambiguity: " ++ toString s.strictAmbiguity ++ ", .. \x7d"

end Settings

end RoleLookup.Directory
