import RoleLookup.Yaml.Scanner

/-!
# YAML documents

* `Node`, the tree of a document, in which an alias keeps the number of its anchor;
* `Document`, a tree, its anchors, and whether the text around the tree is sound;
* `Document.ofText`, the first document of a text.

A malformed text has a tree too: it ends where the text becomes malformed, so that what comes
before can still be looked at. A collection in which that happens is not complete, and a node that
has not begun is `broken`.
-/

namespace RoleLookup.Yaml

/-- The tree of a document. -/
inductive Node
  | scalar (tag : Option String) (style : Style) (text : String)
  | sequence (tag : Option String) (items : List Node) (complete : Bool)
  | mapping (tag : Option String) (members : List (Node × Node)) (complete : Bool)
  | alias (anchor : Nat)
  | broken
  deriving Repr, Inhabited

/-- A scalar that is not written. -/
def Node.empty : Node := .scalar none .plain ""

/-- A node with an anchor. Of several nodes of one anchor number the latest counts. -/
structure Anchored where
  serial : Nat
  anchor : Nat
  node : Node
  deriving Repr

/-- A tree with its anchors. It is sound if nothing is wrong behind the tree and no other document
follows. -/
structure Document where
  root : Node
  anchors : List Anchored
  sound : Bool
  deriving Repr

/-- The node that an alias stands for. -/
def Document.anchored? (d : Document) (anchor : Nat) : Option Node :=
  let candidates := d.anchors.filter (·.anchor == anchor)
  let latest := (candidates.map (·.serial)).foldl max 0
  (candidates.find? (·.serial == latest)).map (·.node)

/-! ### Reading a tree -/

/-- The tokens that are left, the handles of tags, and the anchors so far. -/
structure Reading where
  tokens : List Token
  broken : Bool := false
  handles : List (String × String) := []
  names : List (String × Nat) := []
  serial : Nat := 0
  anchors : List Anchored := []

namespace Reading

/-- The text is malformed here. -/
def fail (r : Reading) : Reading := { r with tokens := [], broken := true }

/-- The tokens behind the first one. -/
def skip (r : Reading) : Reading := { r with tokens := r.tokens.drop 1 }

/-- The anchor and the tag in front of a node, in either order. -/
def properties (r : Reading) : Option String × Option (String × String) × Reading :=
  match r.tokens with
  | .anchor a :: .tag h s :: rest => (some a, some (h, s), { r with tokens := rest })
  | .tag h s :: .anchor a :: rest => (some a, some (h, s), { r with tokens := rest })
  | .anchor a :: rest => (some a, none, { r with tokens := rest })
  | .tag h s :: rest => (none, some (h, s), { r with tokens := rest })
  | _ => (none, none, r)

/-- The text of a tag, unless its handle has no meaning. -/
def tagText? (r : Reading) : Option (String × String) → Option (Option String)
  | none => some none
  | some ("", suffix) => some (some suffix)
  | some (handle, suffix) =>
    (r.handles.find? (·.1 == handle)).map fun m => some (m.2 ++ suffix)

/-- The serial and the anchor number of a node that has an anchor. A new name has the next free
number, and a name that is used again moves to the next number too. -/
def register (r : Reading) : Option String → Option (Nat × Nat) × Reading
  | none => (none, r)
  | some name =>
    let number := r.names.length
    (some (r.serial + 1, number),
      { r with
        names := (name, number) :: r.names.filter (·.1 != name)
        serial := r.serial + 1 })

/-- The reading with a node that has an anchor. -/
def record (r : Reading) (slot : Option (Nat × Nat)) (n : Node) : Reading :=
  match slot with
  | some (serial, anchor) => { r with anchors := ⟨serial, anchor, n⟩ :: r.anchors }
  | none => r

/-- Whether the next token is one of those behind which a node may be left out. -/
def nextIs (r : Reading) (ts : List Token) : Bool := r.tokens.head?.any ts.contains

end Reading

mutual

/-- A node. Without brackets around it, it may be a block; as a part of a block mapping it may be
a block sequence that is not indented. -/
def readNode (fuel : Nat) (block indentless : Bool) (r : Reading) : Node × Reading :=
  match fuel with
  | 0 => (.broken, r.fail)
  | fuel + 1 =>
    match r.tokens with
    | .alias name :: _ =>
      match r.names.find? (·.1 == name) with
      | some (_, number) => (.alias number, r.skip)
      | none => (.broken, r.fail)
    | _ =>
      let (anchor, written, r) := r.properties
      match r.tagText? written with
      | none => (.broken, r.fail)
      | some tag =>
        let (slot, r) := r.register anchor
        let finish (n : Node) (r : Reading) : Node × Reading := (n, r.record slot n)
        match r.tokens, block, indentless with
        | .blockEntry :: _, _, true =>
          let (items, r) := readIndentless fuel r
          finish (.sequence tag items true) r
        | .scalar text style :: _, _, _ =>
          finish (.scalar (if tag == some "!" then none else tag) style text) r.skip
        | .flowSequenceStart :: _, _, _ =>
          let (items, complete, r) := readFlowItems fuel true r.skip
          finish (.sequence tag items complete) r
        | .flowMappingStart :: _, _, _ =>
          let (members, complete, r) := readFlowMembers fuel true r.skip
          finish (.mapping tag members complete) r
        | .blockSequenceStart :: _, true, _ =>
          let (items, complete, r) := readItems fuel r.skip
          finish (.sequence tag items complete) r
        | .blockMappingStart :: _, true, _ =>
          let (members, complete, r) := readMembers fuel r.skip
          finish (.mapping tag members complete) r
        | [], _, _ => (.broken, r.fail)
        | _ :: _, _, _ =>
          if anchor.isSome || tag.isSome then finish (.scalar tag .plain "") r
          else (.broken, r.fail)

/-- A node that may be left out in front of some tokens. -/
def readOptional (fuel : Nat) (block indentless : Bool) (without : List Token) (r : Reading) :
    Node × Reading :=
  match fuel with
  | 0 => (.broken, r.fail)
  | fuel + 1 =>
    if r.nextIs without then (.empty, r) else readNode fuel block indentless r

/-- The elements of a block sequence, and whether the sequence is complete. -/
def readItems (fuel : Nat) (r : Reading) : List Node × Bool × Reading :=
  match fuel with
  | 0 => ([], false, r.fail)
  | fuel + 1 =>
    match r.tokens with
    | .blockEntry :: _ =>
      let (n, r) := readOptional fuel true false [.blockEntry, .blockEnd] r.skip
      if r.broken then ([n], false, r)
      else
        let (ns, complete, r) := readItems fuel r
        (n :: ns, complete, r)
    | .blockEnd :: _ => ([], true, r.skip)
    | _ => ([], false, r.fail)

/-- The elements of a block sequence that is not indented. It ends where no element follows. -/
def readIndentless (fuel : Nat) (r : Reading) : List Node × Reading :=
  match fuel with
  | 0 => ([], r.fail)
  | fuel + 1 =>
    match r.tokens with
    | .blockEntry :: _ =>
      let (n, r) := readOptional fuel true false [.blockEntry, .key, .value, .blockEnd] r.skip
      if r.broken then ([n], r)
      else
        let (ns, r) := readIndentless fuel r
        (n :: ns, r)
    | [] => ([.broken], r.fail)
    | _ => ([], r)

/-- The value of a member, if there is one. -/
def readValue (fuel : Nat) (block : Bool) (without : List Token) (r : Reading) : Node × Reading :=
  match fuel with
  | 0 => (.broken, r.fail)
  | fuel + 1 =>
    match r.tokens with
    | .value :: _ => readOptional fuel block block without r.skip
    | [] => (.broken, r.fail)
    | _ => (.empty, r)

/-- The members of a block mapping, and whether the mapping is complete. -/
def readMembers (fuel : Nat) (r : Reading) : List (Node × Node) × Bool × Reading :=
  match fuel with
  | 0 => ([], false, r.fail)
  | fuel + 1 =>
    match r.tokens with
    | .key :: _ =>
      let (k, r) := readOptional fuel true true [.key, .value, .blockEnd] r.skip
      if r.broken then ([(k, .broken)], false, r)
      else
        let (v, r) := readValue fuel true [.key, .value, .blockEnd] r
        if r.broken then ([(k, v)], false, r)
        else
          let (ms, complete, r) := readMembers fuel r
          ((k, v) :: ms, complete, r)
    | .blockEnd :: _ => ([], true, r.skip)
    | _ => ([], false, r.fail)

/-- The elements of a sequence in brackets. An element may be a mapping of one member. -/
def readFlowItems (fuel : Nat) (first : Bool) (r : Reading) : List Node × Bool × Reading :=
  match fuel with
  | 0 => ([], false, r.fail)
  | fuel + 1 =>
    if r.nextIs [.flowSequenceEnd] then ([], true, r.skip)
    else if !first && !r.nextIs [.flowEntry] then ([], false, r.fail)
    else
      let r := if first then r else r.skip
      match r.tokens with
      | .flowSequenceEnd :: _ => ([], true, r.skip)
      | .key :: _ =>
        let (n, r) := readPair fuel r.skip
        if r.broken then ([n], false, r)
        else
          let (ns, complete, r) := readFlowItems fuel false r
          (n :: ns, complete, r)
      | _ =>
        let (n, r) := readNode fuel false false r
        if r.broken then ([n], false, r)
        else
          let (ns, complete, r) := readFlowItems fuel false r
          (n :: ns, complete, r)

/-- A mapping of one member within a sequence in brackets. Where its key is left out, the token in
its place is passed over. -/
def readPair (fuel : Nat) (r : Reading) : Node × Reading :=
  match fuel with
  | 0 => (.broken, r.fail)
  | fuel + 1 =>
    let (k, r) :=
      if r.nextIs [.value, .flowEntry, .flowSequenceEnd] then (.empty, r.skip)
      else readNode fuel false false r
    if r.broken then (.mapping none [(k, .broken)] false, r)
    else
      let (v, r) := readValue fuel false [.flowEntry, .flowSequenceEnd] r
      if r.broken || r.tokens.isEmpty then (.mapping none [(k, v)] false, r.fail)
      else (.mapping none [(k, v)] true, r)

/-- The members of a mapping in brackets. A member may be a key alone. -/
def readFlowMembers (fuel : Nat) (first : Bool) (r : Reading) :
    List (Node × Node) × Bool × Reading :=
  match fuel with
  | 0 => ([], false, r.fail)
  | fuel + 1 =>
    if r.nextIs [.flowMappingEnd] then ([], true, r.skip)
    else if !first && !r.nextIs [.flowEntry] then ([], false, r.fail)
    else
      let r := if first then r else r.skip
      match r.tokens with
      | .flowMappingEnd :: _ => ([], true, r.skip)
      | .key :: _ =>
        let (k, r) := readOptional fuel false false [.value, .flowEntry, .flowMappingEnd] r.skip
        if r.broken then ([(k, .broken)], false, r)
        else
          let (v, r) := readValue fuel false [.flowEntry, .flowMappingEnd] r
          if r.broken then ([(k, v)], false, r)
          else
            let (ms, complete, r) := readFlowMembers fuel false r
            ((k, v) :: ms, complete, r)
      | _ =>
        let (k, r) := readNode fuel false false r
        if r.broken || r.tokens.isEmpty then ([(k, .broken)], false, r.fail)
        else
          let (ms, complete, r) := readFlowMembers fuel false r
          ((k, .empty) :: ms, complete, r)

end

/-! ### Documents -/

/-- The handles that have a meaning in every document. -/
def commonHandles : List (String × String) := [("!", "!"), ("!!", "tag:yaml.org,2002:")]

/-- The directives at the start of a document: whether there was a version, and the handles. -/
def readDirectives :
    Bool → List (String × String) → List Token → Option (List (String × String) × List Token)
  | versioned, handles, .version major minor :: rest =>
    if versioned || major != 1 || (minor != 1 && minor != 2) then none
    else readDirectives true handles rest
  | versioned, handles, .shorthand handle meaning :: rest =>
    if handles.any (·.1 == handle) then none
    else readDirectives versioned (handles ++ [(handle, meaning)]) rest
  | _, handles, ts => some (handles ++ commonHandles, ts)

/-- Whether nothing but the end of the stream follows a document. -/
def endsStream : List Token → Bool
  | .documentEnd :: rest => endsStream rest
  | .streamEnd :: _ => true
  | _ => false

/-- The first document of some tokens. A stream without one has a tree that is not written. -/
def Document.ofTokens (tokens : List Token) : Document :=
  let fuel := 4 * tokens.length + 8
  let finish (n : Node) (r : Reading) : Document := ⟨n, r.anchors, !r.broken && endsStream r.tokens⟩
  let content (r : Reading) : Document :=
    match r.tokens with
    | .version .. :: _ | .shorthand .. :: _ | .documentStart :: _ | .documentEnd :: _
    | .streamEnd :: _ => finish .empty r
    | _ =>
      let (n, r) := readNode fuel true false r
      finish n r
  match tokens with
  | .streamEnd :: _ => ⟨.empty, [], true⟩
  | .version .. :: _ | .shorthand .. :: _ | .documentStart :: _ =>
    match readDirectives false [] tokens with
    | some (handles, .documentStart :: rest) => content { tokens := rest, handles }
    | _ => ⟨.broken, [], false⟩
  | _ =>
    let (n, r) := readNode fuel true false { tokens, handles := commonHandles }
    finish n r

/-- The first document of a text. -/
def Document.ofText (s : String) : Document := .ofTokens (tokens s)

end RoleLookup.Yaml
