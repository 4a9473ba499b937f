import RoleLookup.DistinguishedName
import RoleLookup.Log.Event
import RoleLookup.Roles
import RoleLookup.Text.Quoted
import RoleLookup.Text.Utf8

/-!
# Entries of a directory

* `RawEntry`, an entry as the directory sends it, with values of any bytes;
* `RawEntry.decode`, the entry of its attributes that are texts;
* `Entry.groups`, the values of one attribute, and `Entry.roles`, the common names among them.

The role of a group is its first common name. A group without one, or with a malformed name, has
no role.
-/

namespace RoleLookup.Directory

open Log

/-- An entry as the directory sends it. An attribute may come more than once. -/
structure RawEntry where
  dn : String
  attributes : List (String × List (List UInt8))
  deriving DecidableEq, Repr

/-- An entry with texts as values, and each attribute name once. -/
structure Entry where
  dn : String
  attributes : List (String × List String)
  deriving DecidableEq, Repr

/-- The values of an attribute, if each of them is a text. -/
def texts? (values : List (List UInt8)) : Option (List String) := values.mapM Text.decode?

/-- Attributes with one more in place of the one of its name. -/
def setAttribute (name : String) (values : List String) :
    List (String × List String) → List (String × List String)
  | [] => [(name, values)]
  | a :: as => if a.1 = name then (name, values) :: as else a :: setAttribute name values as

/-- The entry of the attributes that are texts. Of those with the same name the last counts. -/
def RawEntry.decode (e : RawEntry) : Entry :=
  ⟨e.dn, e.attributes.foldl (fun as (name, values) =>
    match texts? values with
    | some values => setAttribute name values as
    | none => as) []⟩

/-- Whether two texts are the same up to the case of the letters A to Z. -/
def sameIgnoringCase (s t : String) : Bool :=
  s.toList.map Char.toLower == t.toList.map Char.toLower

namespace Entry

/-- The values of an attribute, whatever the case of its name. -/
def groups (e : Entry) (groupAttribute : String) : List String :=
  (e.attributes.filter fun a => sameIgnoringCase a.1 groupAttribute).flatMap (·.2)

end Entry

/-! ### Roles -/

/-- The role of a group, if it has one. -/
def roleOf? (group : String) : Option String :=
  match DistinguishedName.firstCommonName group with
  | .ok role => role
  | .error _ => none

/-- An event of this part. -/
def clientEvent (level : Level) (message : String) (fields : List Field) : Log.Event :=
  ⟨level, "tiny_roles_ldap::client", some message, fields, []⟩

/-- Logged for a group without a role. -/
def groupEvents (group : String) : List Log.Event :=
  match DistinguishedName.firstCommonName group with
  | .ok (some _) => []
  | .ok none => [clientEvent .debug "group has no common name" [⟨"group", .shown group⟩]]
  | .error e =>
    [clientEvent .warn "skipping malformed group dn"
      [⟨"group", .shown group⟩, ⟨"e", .shown e.message⟩]]

namespace Entry

/-- The roles of the groups of an entry. -/
def roles (e : Entry) (groupAttribute : String) : RoleSet :=
  .ofList ((e.groups groupAttribute).filterMap roleOf?)

/-- Logged when the roles of an entry are read, the entry itself more prominently on demand. -/
def roleEvents (e : Entry) (groupAttribute : String) (debug : Bool) : List Log.Event :=
  let groups := e.groups groupAttribute
  clientEvent (if debug then .info else .trace) "matched entry"
      [⟨"dn", .shown e.dn⟩, ⟨"groups", .shown (Text.quotedList groups)⟩] ::
    groups.flatMap groupEvents

end Entry

end RoleLookup.Directory
