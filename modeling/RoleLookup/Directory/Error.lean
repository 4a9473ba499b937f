import RoleLookup.Roles
import RoleLookup.Text.Duration
import RoleLookup.Url.Basic

/-!
# Directory errors

* `Result`, how a directory answers a request: a result code, the name it matched, a text;
* `RequestError`, why a request has no answer, or an answer that is of no use;
* `Error`, why a directory operation fails;
* `Error.isBindFailure` and `Error.toLookupError`, which decide what a lookup reports.
-/

namespace RoleLookup.Directory

/-- How a directory answers a request. -/
structure Result where
  code : Nat
  matched : String
  text : String
  deriving DecidableEq, Repr

/-- Name of a result code. -/
def resultName : Nat → String
  | 0 => "success"
  | 1 => "operationsError"
  | 2 => "protocolError"
  | 3 => "timeLimitExceeded"
  | 4 => "sizeLimitExceeded"
  | 5 => "compareFalse"
  | 6 => "compareTrue"
  | 7 => "authMethodNotSupported"
  | 8 => "strongerAuthRequired"
  | 10 => "referral"
  | 11 => "adminLimitExceeded"
  | 12 => "unavailableCriticalExtension"
  | 13 => "confidentialityRequired"
  | 14 => "saslBindInProgress"
  | 16 => "noSuchAttribute"
  | 17 => "undefinedAttributeType"
  | 18 => "inappropriateMatching"
  | 19 => "constraintViolation"
  | 20 => "attributeOrValueExists"
  | 21 => "invalidAttributeSyntax"
  | 32 => "noSuchObject"
  | 33 => "aliasProblem"
  | 34 => "invalidDNSyntax"
  | 36 => "aliasDereferencingProblem"
  | 48 => "inappropriateAuthentication"
  | 49 => "invalidCredentials"
  | 50 => "insufficientAccessRights"
  | 51 => "busy"
  | 52 => "unavailable"
  | 53 => "unwillingToPerform"
  | 54 => "loopDetect"
  | 64 => "namingViolation"
  | 65 => "objectClassViolation"
  | 66 => "notAllowedOnNonLeaf"
  | 67 => "notAllowedOnRDN"
  | 68 => "entryAlreadyExists"
  | 69 => "objectClassModsProhibited"
  | 71 => "affectsMultipleDSAs"
  | 80 => "other"
  | 88 => "abandoned"
  | 122 => "assertionFailed"
  | _ => "unknown"

/-- Wording of an answer. -/
def Result.message (r : Result) : String :=
  s!"LDAP operation result: rc={r.code} ({resultName r.code}), dn: \"{r.matched}\", " ++
    s!"text: \"{r.text}\""

/-- Why a request has no answer, or one that is of no use. -/
inductive RequestError
  /-- No answer in time. -/
  | timeout
  /-- The filter is not well formed. -/
  | filter
  /-- The scheme of the address is not one of a directory. -/
  | scheme (name : String)
  /-- The connection cannot be made or used. -/
  | io (text : String)
  /-- The directory answered with a code other than success. -/
  | result (r : Result)
  /-- The connection closed before the answer. -/
  | closed
  /-- The connection closed before the end of the search. -/
  | endOfSearch
  deriving DecidableEq, Repr

/-- Wording of a request error. -/
def RequestError.message : RequestError → String
  | timeout => "timeout: deadline has elapsed"
  | filter => "filter parse error"
  | scheme name => "unknown LDAP URL scheme: " ++ name
  | io text => "I/O error: " ++ text
  | result r => r.message
  | closed => "result recv error: channel closed"
  | endOfSearch => "premature end of search stream"

/-- Why a directory operation fails. -/
inductive Error
  | connect (target : String) (cause : RequestError)
  | invalidCredentials (bindDn : String)
  | bindRefused (code : Nat) (text : String)
  | bind (cause : RequestError)
  | search (cause : RequestError)
  | poolExhausted (waited : Duration)
  | poolInitialisation (cause : Error)
  | trustStore (path : String) (cause : String)
  | emptyTrustStore (path : String)
  | url (cause : Url.Error)
  deriving DecidableEq, Repr

namespace Error

/-- Wording of an error. -/
def message : Error → String
  | connect target cause => "connection to '" ++ target ++ "' failed: " ++ cause.message
  | invalidCredentials bindDn => "invalid credentials for '" ++ bindDn ++ "'"
  | bindRefused code text => s!"unexpected result code {code} while binding: {text}"
  | bind cause => "bind failed: " ++ cause.message
  | search cause => "search failed: " ++ cause.message
  | poolExhausted waited => "no pooled connection available within " ++ waited.text
  | poolInitialisation cause => "connection pool initialisation failed: " ++ cause.message
  | trustStore path cause => "could not read trust store '" ++ path ++ "': " ++ cause
  | emptyTrustStore path => "trust store '" ++ path ++ "' contains no usable certificate"
  | url cause => "invalid directory url: " ++ cause.message

/-- Whether the bind failed for another reason than a missing answer in time. -/
def isBindFailure : Error → Bool
  | invalidCredentials _ | bindRefused .. => true
  | bind .timeout => false
  | bind _ => true
  | _ => false

/-- What a lookup that meets the error reports. -/
def toLookupError : Error → LookupError
  | poolInitialisation cause => .poolInitialisation (poolInitialisation cause).message
  | e => .unavailableBecause e.message

end Error

end RoleLookup.Directory
