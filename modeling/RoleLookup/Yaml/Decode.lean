import RoleLookup.Yaml.Meaning
import RoleLookup.Yaml.Node

/-!
# Reading values from a document

* `Decode.Error`, why a document does not hold what is looked for, and where in the document;
* `Decoder`, a reader of one node, and the readers of texts, truth values, numbers, optional
  values, sequences, records and choices.

A record is read in the order in which its members are written, so the first mistake counts. Only
behind its last member is it asked which members are missing. Members of other names are passed
over.
-/

namespace RoleLookup.Yaml.Decode

/-! ### Errors -/

/-- One step from a node to a part of it. -/
inductive Step
  | member (name : String)
  | element (index : Nat)
  /-- A member whose key is an alias. -/
  | unknown
  deriving DecidableEq, Repr

/-- The steps from the root to a node. -/
abbrev Path := List Step

/-- Text of a path. -/
def pathText (p : Path) : String :=
  p.foldl (fun s step =>
    let dot := if s.isEmpty then "" else s ++ "."
    match step with
    | .member name => dot ++ name
    | .unknown => dot ++ "?"
    | .element i => (if s.isEmpty then "." else s) ++ "[" ++ toString i ++ "]") ""

/-- What is wrong with a node. -/
inductive Cause
  | wrongType (found expected : String)
  | wrongValue (found expected : String)
  | missing (name : String)
  | duplicate (name : String)
  | unknownChoice (name : String) (choices : List String)
  deriving DecidableEq, Repr

/-- Why a document does not hold what is looked for. -/
inductive Error
  /-- The text is no YAML, or not a single document. -/
  | malformed
  | invalid (path : Path) (cause : Cause)
  deriving DecidableEq, Repr

/-- Between backticks. -/
def ticked (s : String) : String := "\x60" ++ s ++ "\x60"

/-- The names that could have been chosen. -/
def choicesText : List String → String
  | [a] => ticked a
  | [a, b] => ticked a ++ " or " ++ ticked b
  | names => "one of " ++ ", ".intercalate (names.map ticked)

/-- Wording of a cause. -/
def Cause.message : Cause → String
  | .wrongType found expected => "invalid type: " ++ found ++ ", expected " ++ expected
  | .wrongValue found expected => "invalid value: " ++ found ++ ", expected " ++ expected
  | .missing name => "missing field " ++ ticked name
  | .duplicate name => "duplicate field " ++ ticked name
  | .unknownChoice name choices =>
    "unknown variant " ++ ticked name ++ ", expected " ++ choicesText choices

/-- Wording of an error. -/
def Error.message : Error → String
  | .malformed => "malformed document"
  | .invalid [] cause => cause.message
  | .invalid path cause => pathText path ++ ": " ++ cause.message

/-! ### Nodes that are not what is looked for -/

/-- The text as a found thing. -/
def foundText (s : String) : String := (Meaning.text s).description

/-- What is wrong with a scalar where something else is expected. A tag of YAML itself asks for a
meaning, and the scalar may not have it. -/
def scalarCause (tag : Option String) (style : Style) (text expected : String) : Cause :=
  let asked (meaning : Option Meaning) (name : String) : Cause :=
    match meaning with
    | some m => .wrongType m.description expected
    | none => .wrongValue (foundText text) name
  let plain : Cause :=
    if style == .plain then .wrongType (Meaning.ofPlain text).description expected
    else .wrongType (foundText text) expected
  match tag with
  | none => plain
  | some "tag:yaml.org,2002:bool" => asked ((truth? text).map .truth) "a boolean"
  | some "tag:yaml.org,2002:int" => asked (integer? text.toList) "an integer"
  | some "tag:yaml.org,2002:float" => asked ((real? text).map .real) "a float"
  | some "tag:yaml.org,2002:null" => asked (if isNull text then some .null else none) "null"
  | some tag => if tag.startsWith "!" then plain else .wrongType (foundText text) expected

/-- The error of a node that is not what is expected. -/
def mismatch (path : Path) (expected : String) : Node → Error
  | .scalar tag style text => .invalid path (scalarCause tag style text expected)
  | .sequence .. => .invalid path (.wrongType "sequence" expected)
  | .mapping .. => .invalid path (.wrongType "map" expected)
  | .alias _ | .broken => .malformed

/-! ### Simple values -/

/-- A reader of one node of a document. -/
abbrev Decoder (α : Type) := Document → Path → Node → Except Error α

/-- The node that counts: an alias stands for its anchor. -/
def resolve (d : Document) : Node → Node
  | .alias anchor => (d.anchored? anchor).getD .broken
  | n => n

/-- A text; every scalar is one. -/
def text (expected : String) : Decoder String := fun d path n =>
  match resolve d n with
  | .scalar _ _ s => .ok s
  | n => .error (mismatch path expected n)

/-- Whether a scalar may be read as a value of a kind: it has no quotes, or it is a literal block
with the tag of the kind. -/
def isReadable (tag : Option String) (style : Style) (kind : String) : Bool :=
  style == .plain || (style == .literal && tag == some kind)

/-- A truth value. -/
def flag : Decoder Bool := fun d path n =>
  let n := resolve d n
  let value :=
    match n with
    | .scalar tag style s =>
      if isReadable tag style "tag:yaml.org,2002:bool" then truth? s else none
    | _ => none
  match value with
  | some b => .ok b
  | none => .error (mismatch path "a boolean" n)

/-- A number from zero up to a limit. -/
def unsigned (expected : String) (limit : Nat) : Decoder Nat := fun d path n =>
  let n := resolve d n
  let value :=
    match n with
    | .scalar tag style s =>
      if isReadable tag style "tag:yaml.org,2002:int" then
        (unsigned? s.toList).filter (· < UInt64.size)
      else none
    | _ => none
  match value with
  | some m =>
    if m ≤ limit then .ok m
    else .error (.invalid path (.wrongValue (Meaning.integer m).description expected))
  | none => .error (mismatch path expected n)

/-- Nothing or a value. A wrong tag is a mistake of the node around. -/
def optional {α : Type} (some? : Decoder α) : Decoder (Option α) := fun d path n =>
  match resolve d n with
  | .scalar tag .plain s =>
    match tag with
    | some "tag:yaml.org,2002:null" =>
      if isNull s then .ok none
      else .error (.invalid path.dropLast (.wrongValue (foundText s) "null"))
    | some _ => (some? d path n).map some
    | none => if s.isEmpty || isNull s then .ok none else (some? d path n).map some
  | _ => (some? d path n).map some

/-! ### Sequences -/

/-- The elements of a sequence from an index on. -/
def elements {α : Type} (one : Decoder α) (d : Document) (path : Path) :
    Nat → List Node → Except Error (List α)
  | _, [] => .ok []
  | i, n :: ns => do
    let x ← one d (path ++ [.element i]) n
    return x :: (← elements one d path (i + 1) ns)

/-- A sequence. What is not written is an empty one. -/
def sequence {α : Type} (one : Decoder α) : Decoder (List α) := fun d path n =>
  match resolve d n with
  | .sequence _ items complete => do
    let xs ← elements one d path 0 items
    if complete then return xs else throw .malformed
  | .scalar _ .plain "" => .ok []
  | n => .error (mismatch path "a sequence" n)

/-! ### Records -/

mutual

/-- Whether a node has no malformed part. -/
def isWhole : Node → Bool
  | .scalar .. | .alias _ => true
  | .sequence _ items complete => complete && areWhole items
  | .mapping _ members complete => complete && membersAreWhole members
  | .broken => false

/-- Whether nodes have no malformed part. -/
def areWhole : List Node → Bool
  | [] => true
  | n :: ns => isWhole n && areWhole ns

/-- Whether keys and values have no malformed part. -/
def membersAreWhole : List (Node × Node) → Bool
  | [] => true
  | (k, v) :: ms => isWhole k && isWhole v && membersAreWhole ms

end

/-- A member of a record: its name, and whether a node will do for it. -/
structure Member where
  name : String
  check : Decoder Unit

/-- A member that a decoder reads. -/
def Member.of {α : Type} (name : String) (decoder : Decoder α) : Member :=
  ⟨name, fun d path n => (decoder d path n).map fun _ => ()⟩

/-- The members of a record that are written, with their nodes. -/
abbrev Members := List (String × Node)

/-- The step to the value of a key. -/
def stepTo : Node → Step
  | .scalar _ _ name => .member name
  | _ => .unknown

/-- Goes through the members in the order in which they are written. -/
def scan (members : List Member) (d : Document) (path : Path) :
    Members → List (Node × Node) → Except Error Members
  | seen, [] => .ok seen
  | seen, (k, v) :: rest => do
    let name ← text "field identifier" d path k
    match members.find? (·.name == name) with
    | none => if isWhole v then scan members d path seen rest else throw .malformed
    | some m =>
      if seen.any (·.1 == name) then throw (.invalid path (.duplicate name))
      m.check d (path ++ [stepTo k]) v
      scan members d path (seen ++ [(name, v)]) rest

/-- The written members of a record. What is not written has none. -/
def written (expected : String) (members : List Member) : Decoder Members := fun d path n =>
  match resolve d n with
  | .mapping _ ms complete => do
    let seen ← scan members d path [] ms
    if complete then return seen else throw .malformed
  | .scalar _ .plain "" => .ok []
  | n => .error (mismatch path expected n)

/-- The node of a member. -/
def Members.node? (ms : Members) (name : String) : Option Node :=
  (ms.find? (·.1 == name)).map (·.2)

/-- A member that has to be there. -/
def Members.required {α : Type} (ms : Members) (d : Document) (path : Path) (name : String)
    (decoder : Decoder α) : Except Error α :=
  match ms.node? name with
  | some n => decoder d (path ++ [.member name]) n
  | none => .error (.invalid path (.missing name))

/-- A member with a default. -/
def Members.withDefault {α : Type} (ms : Members) (d : Document) (path : Path) (name : String)
    (decoder : Decoder α) (default : α) : Except Error α :=
  match ms.node? name with
  | some n => decoder d (path ++ [.member name]) n
  | none => .ok default

/-! ### Choices -/

/-- One of several alternatives, which stands alone or has members. -/
inductive Alternative (α : Type)
  | alone (name : String) (value : α)
  | record (name : String) (decoder : Decoder α)

/-- Name of an alternative. -/
def Alternative.name {α : Type} : Alternative α → String
  | .alone name _ | .record name _ => name

/-- The name that a tag chooses: what follows an exclamation mark. -/
def chosen? (tag : Option String) : Option String :=
  match tag.map String.toList with
  | some ('!' :: name) => some (String.ofList name)
  | _ => none

/-- The name that the tag of a node chooses. -/
def chosenBy? : Node → Option String
  | .scalar tag .. | .sequence tag .. | .mapping tag .. => chosen? tag
  | .alias _ | .broken => none

/-- Nothing, behind the tag of an alternative that stands alone. -/
def nothing (path : Path) : Node → Except Error Unit
  | .scalar _ style s =>
    if style == .plain && (s.isEmpty || isNull s) then .ok ()
    else .error (.invalid path (.wrongValue (foundText s) "null"))
  | n => .error (mismatch path "unit" n)

/-- The alternative of a name. -/
def alternative {α : Type} (alternatives : List (Alternative α)) (path : Path) (name : String) :
    Except Error (Alternative α) :=
  match alternatives.find? (·.name == name) with
  | some a => .ok a
  | none => .error (.invalid path (.unknownChoice name (alternatives.map (·.name))))

/-- One of several alternatives, chosen by a tag or, if it stands alone, by a text. -/
def choice {α : Type} (alternatives : List (Alternative α)) : Decoder α := fun d path n =>
  let n := resolve d n
  match chosenBy? n, n with
  | some name, _ => do
    match ← alternative alternatives path name with
    | .alone _ value => do nothing path n; return value
    | .record _ decoder => decoder d path n
  | none, .scalar _ _ name => do
    match ← alternative alternatives path name with
    | .alone _ value => return value
    | .record .. => throw (.invalid path (.wrongType "unit variant" "struct variant"))
  | none, n => .error (mismatch path "a YAML tag starting with '!'" n)

/-! ### Documents -/

/-- The value of a whole text. -/
def document {α : Type} (decoder : Decoder α) (s : String) : Except Error α := do
  let d := Document.ofText s
  let x ← decoder d [] d.root
  if d.sound then return x else throw .malformed

end RoleLookup.Yaml.Decode
