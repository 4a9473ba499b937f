import RoleLookup.Url.Ipv6

/-!
# URLs

Addresses of directory servers. The rules are those for schemes without a default port, so host
names are opaque texts.

* `Url`, the parts of an address, each in its written form;
* `Url.text`, the address as one text;
* `parse`, the parts of a text.
-/

namespace RoleLookup

/-- A host: an opaque name or an IPv6 address. -/
inductive Url.Host
  | name (s : String)
  | ipv6 (pieces : List Nat)
  deriving DecidableEq, Repr

/-- Where to connect to, and as whom. -/
structure Url.Authority where
  user : String
  password : String
  host : Url.Host
  port : Option Nat
  deriving DecidableEq, Repr

/-- The parts of an address. -/
structure Url where
  scheme : String
  authority : Option Url.Authority
  path : String
  query : Option String
  fragment : Option String
  deriving DecidableEq, Repr

namespace Url

/-- Why a text is not an address. -/
inductive Error
  | noScheme
  | emptyHost
  | invalidPort
  | invalidIpv6
  | invalidHostCharacter
  deriving DecidableEq, Repr

/-- Wording of an error. -/
def Error.message : Error → String
  | .noScheme => "relative URL without a base"
  | .emptyHost => "empty host"
  | .invalidPort => "invalid port number"
  | .invalidIpv6 => "invalid IPv6 address"
  | .invalidHostCharacter => "invalid domain character"

/-! ### Writing -/

/-- Text of a host. -/
def Host.text : Host → String
  | .name s => s
  | .ipv6 pieces => "[" ++ Ipv6.text pieces ++ "]"

/-- Text of an authority. -/
def Authority.text (a : Authority) : String :=
  let login :=
    a.user ++ (if a.password.isEmpty then "" else ":" ++ a.password) ++
      (if a.user.isEmpty && a.password.isEmpty then "" else "@")
  login ++ a.host.text ++ (a.port.map fun p => ":" ++ toString p).getD ""

/-- Text of an address. -/
def text (u : Url) : String :=
  u.scheme ++ ":" ++ (u.authority.map fun a => "//" ++ a.text).getD "" ++ u.path ++
    (u.query.map ("?" ++ ·)).getD "" ++ (u.fragment.map ("#" ++ ·)).getD ""

/-! ### Escapes -/

/-- Whether a character is a control character or not ASCII. -/
def isControl (c : Char) : Bool := c.toNat < 0x20 || 0x7f ≤ c.toNat

/-- Characters escaped in a query. -/
def escapedInQuery (c : Char) : Bool :=
  isControl c || c == ' ' || c == '"' || c == '#' || c == '<' || c == '>'

/-- Characters escaped in a fragment. -/
def escapedInFragment (c : Char) : Bool :=
  isControl c || c == ' ' || c == '"' || c == '<' || c == '>' || c == '`'

/-- Characters escaped in a path. -/
def escapedInPath (c : Char) : Bool :=
  escapedInFragment c || c == '#' || c == '?' || c == '\x7b' || c == '\x7d'

/-- Characters escaped in a user name or password. -/
def escapedInLogin (c : Char) : Bool :=
  escapedInPath c || c == '/' || c == ':' || c == ';' || c == '=' || c == '@' || c == '[' ||
    c == '\\' || c == ']' || c == '^' || c == '|'

/-- A byte as a percent sign and two hexadecimal digits. -/
def percent (b : UInt8) : List Char :=
  ['%', (Nat.digitChar (b.toNat / 16)).toUpper, (Nat.digitChar (b.toNat % 16)).toUpper]

/-- A text with the bytes of some characters escaped. -/
def escape (which : Char → Bool) (cs : List Char) : String :=
  String.ofList (cs.flatMap fun c =>
    if which c then (String.utf8EncodeChar c).flatMap percent else [c])

/-! ### Reading -/

/-- Whether a character ends an authority. -/
def endsAuthority (c : Char) : Bool := c == '/' || c == '?' || c == '#'

/-- A text cut before the first character with a property. -/
def cutAt (p : Char → Bool) (cs : List Char) : List Char × List Char :=
  (cs.takeWhile fun c => !p c, cs.dropWhile fun c => !p c)

/-- The address text that counts: no blanks and control characters around it, no tabs and line
breaks inside. -/
def significant (s : String) : List Char :=
  let outside (c : Char) := c.toNat ≤ 0x20
  let cs := ((s.toList.dropWhile outside).reverse.dropWhile outside).reverse
  cs.filter fun c => c != '\t' && c != '\n' && c != '\r'

/-- The scheme and the text behind its colon. -/
def scheme? (cs : List Char) : Option (String × List Char) :=
  match cs with
  | [] => none
  | c :: _ =>
    if !c.isAlpha then none
    else
      let name := cs.takeWhile fun d => d.isAlphanum || d == '+' || d == '-' || d == '.'
      match cs.drop name.length with
      | ':' :: rest => some (String.ofList (name.map Char.toLower), rest)
      | _ => none

/-- The text before and behind the last `@`. -/
def cutLogin (cs : List Char) : Option (List Char × List Char) :=
  if cs.contains '@' then
    let host := (cs.reverse.takeWhile (· != '@')).reverse
    some (cs.take (cs.length - host.length - 1), host)
  else none

/-- The text before the first colon that is not in brackets, and the rest. -/
def cutHost (bracketed : Bool) : List Char → List Char × List Char
  | [] => ([], [])
  | c :: cs =>
    if c == ':' && !bracketed then ([], c :: cs)
    else
      let r := cutHost (c == '[' || (bracketed && c != ']')) cs
      (c :: r.1, r.2)

/-- Whether a character may not stand in a host name. -/
def forbiddenInHost (c : Char) : Bool :=
  c == '\x00' || c == '\t' || c == '\n' || c == '\r' || c == ' ' || c == '#' || c == '/' ||
    c == ':' || c == '<' || c == '>' || c == '?' || c == '@' || c == '[' || c == '\\' ||
    c == ']' || c == '^' || c == '|'

/-- The host that a text names. -/
def parseHost (cs : List Char) : Except Error Host :=
  match cs with
  | '[' :: rest =>
    if rest.getLast? == some ']' then
      match Ipv6.parse? rest.dropLast with
      | some pieces => .ok (.ipv6 pieces)
      | none => .error .invalidIpv6
    else .error .invalidIpv6
  | _ =>
    if cs.any forbiddenInHost then .error .invalidHostCharacter
    else .ok (.name (escape isControl cs))

/-- The port that a text starts with, and the text behind it. The text may go on with a
backslash. -/
def parsePort (cs : List Char) : Except Error (Option Nat × List Char) :=
  let ds := cs.takeWhile Char.isDigit
  let n := Text.decimal ds
  let rest := cs.drop ds.length
  if 65535 < n then .error .invalidPort
  else
    match rest with
    | [] => .ok (if ds.isEmpty then none else some n, [])
    | c :: _ =>
      if c == '\\' then .ok (if ds.isEmpty then none else some n, rest)
      else .error .invalidPort

/-- User name and password. -/
def parseLogin (cs : List Char) : String × String :=
  let (user, rest) := cutAt (· == ':') cs
  (escape escapedInLogin user, escape escapedInLogin (rest.drop 1))

/-- The authority that a text without slash, question mark and number sign names, and what is left
of the text. `more` says whether one of those three follows. -/
def parseAuthority (more : Bool) (cs : List Char) : Except Error (Authority × List Char) := do
  let (before, after) :=
    match cutLogin cs with
    | some (before, after) => (some before, after)
    | none => (none, cs)
  if before == some [] && after.isEmpty && more then .error .emptyHost
  let (user, password) := parseLogin (before.getD [])
  let (hostText, rest) := cutHost false after
  let h ← parseHost hostText
  if hostText.isEmpty && !rest.isEmpty then .error .emptyHost
  let (p, rest) ← parsePort (rest.drop 1)
  if hostText.isEmpty && !(user.isEmpty && password.isEmpty) then .error .emptyHost
  return (⟨user, password, h, p⟩, rest)

/-- Whether a path segment is one point, which may be escaped. -/
def isDot (cs : List Char) : Bool :=
  cs.map Char.toLower == ['.'] || cs.map Char.toLower == ['%', '2', 'e']

/-- Whether a path segment is two points, which may be escaped. -/
def isDoubleDot (cs : List Char) : Bool :=
  let cs := cs.map Char.toLower
  cs == ['.', '.'] || cs == ['.', '%', '2', 'e'] || cs == ['%', '2', 'e', '.'] ||
    cs == ['%', '2', 'e', '%', '2', 'e']

/-- The segments of a path, split at slashes. -/
def segments : List Char → List (List Char)
  | [] => [[]]
  | c :: cs =>
    if c == '/' then [] :: segments cs
    else
      match segments cs with
      | s :: ss => (c :: s) :: ss
      | [] => [[c]]

/-- Segments, the last first, after one more; one point is skipped and two points take the segment
before them away. -/
def step (done : List (List Char)) (last : Bool) (s : List Char) : List (List Char) :=
  if isDoubleDot s then (if last then [] :: done.drop 1 else done.drop 1)
  else if isDot s then (if last then [] :: done else done)
  else s :: done

/-- Segments, the last first, of a path. -/
def resolve (done : List (List Char)) : List (List Char) → List (List Char)
  | [] => done
  | [s] => step done true s
  | s :: t :: ss => resolve (step done false s) (t :: ss)

/-- The path behind an authority. -/
def normalPath (cs : List Char) : String :=
  match cs with
  | [] => ""
  | c :: rest =>
    let cs := if c == '/' then rest else cs
    let ss := (resolve [] (segments cs)).reverse
    String.join (ss.map fun s => "/" ++ escape escapedInPath s)

/-- The parts of a text. -/
def parse (s : String) : Except Error Url := do
  let (scheme, rest) ←
    match scheme? (significant s) with
    | some r => pure r
    | none => .error .noScheme
  let (rest, fragment) :=
    match cutAt (· == '#') rest with
    | (rest, []) => (rest, none)
    | (rest, _ :: f) => (rest, some (escape escapedInFragment f))
  let (rest, query) :=
    match cutAt (· == '?') rest with
    | (rest, []) => (rest, none)
    | (rest, _ :: q) => (rest, some (escape escapedInQuery q))
  match rest with
  | '/' :: '/' :: rest =>
    let (before, behind) := cutAt endsAuthority rest
    let (a, left) ← parseAuthority (!behind.isEmpty || query.isSome || fragment.isSome) before
    return ⟨scheme, some a, normalPath (left ++ behind), query, fragment⟩
  | '/' :: _ => return ⟨scheme, none, normalPath rest, query, fragment⟩
  | _ => return ⟨scheme, none, escape isControl rest, query, fragment⟩

end Url

end RoleLookup
