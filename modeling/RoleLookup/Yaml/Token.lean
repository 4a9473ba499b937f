import RoleLookup.Text.Utf8
import RoleLookup.Yaml.Scalar

/-!
# YAML tokens

* `Token`, the smallest parts of a YAML text;
* the readers of single tokens, each from the place where the token starts; `none` stands for a
  malformed token.

Scalars are read elsewhere.
-/

namespace RoleLookup.Yaml

/-- How a scalar is written. -/
inductive Style
  | plain
  | singleQuoted
  | doubleQuoted
  | literal
  | folded
  deriving DecidableEq, Repr

/-- The smallest parts of a YAML text. -/
inductive Token
  | streamEnd
  | version (major minor : Nat)
  | shorthand (handle meaning : String)
  | documentStart
  | documentEnd
  | blockSequenceStart
  | blockMappingStart
  | blockEnd
  | flowSequenceStart
  | flowSequenceEnd
  | flowMappingStart
  | flowMappingEnd
  | blockEntry
  | flowEntry
  | key
  | value
  | alias (name : String)
  | anchor (name : String)
  | tag (handle suffix : String)
  | scalar (text : String) (style : Style)
  deriving DecidableEq, Repr

namespace Token

/-! ### Anchors -/

/-- Whether an anchor may end here. -/
def anchorEnds (cs : List Char) : Bool :=
  atGap cs || cs.head?.any fun c => "?:,]\x7d%@\x60".toList.contains c

/-- The name of an anchor or an alias, from its mark on. -/
def anchorName (c : Cursor) : Option (String × Cursor) :=
  let c := c.advance
  let name := c.rest.takeWhile isWordChar
  let c := c.skipWhile isWordChar
  if name.isEmpty || !anchorEnds c.rest then none else some (String.ofList name, c)

/-! ### Tags -/

/-- How many bytes the encoding of a character has that starts with a byte. -/
def encodedLength (b : Nat) : Option Nat :=
  if b < 0x80 then some 1
  else if b / 32 == 6 then some 2
  else if b / 16 == 14 then some 3
  else if b / 8 == 30 then some 4
  else none

/-- A byte written as a percent sign and two hexadecimal digits. -/
def escapedByte : List Char → Option Nat
  | '%' :: a :: b :: _ => do return (← Text.hexDigit? a) * 16 + (← Text.hexDigit? b)
  | _ => none

/-- Continuation bytes, each written with a percent sign. -/
def continuation : Nat → List Char → Option (List UInt8)
  | 0, _ => some []
  | n + 1, cs => do
    let b ← escapedByte cs
    if b / 64 != 2 then failure
    let bs ← continuation n (cs.drop 3)
    return UInt8.ofNat b :: bs

/-- A character written with percent signs, and the length of that. -/
def escapedChar (cs : List Char) : Option (Char × Nat) := do
  let b ← escapedByte cs
  let n ← encodedLength b
  let bs ← continuation (n - 1) (cs.drop 3)
  let s := Text.decodeLossy (UInt8.ofNat b :: bs)
  return (s.toList.headD Text.replacement, 3 * n)

/-- A character of a tag; more of them may stand between angle brackets. -/
def isTagChar (verbatim : Bool) (c : Char) : Bool :=
  isWordChar c || ";/?:@&=+$.!~*'()%".toList.contains c ||
    (verbatim && (c == ',' || c == '[' || c == ']'))

/-- The characters of a tag. -/
def tagChars (verbatim : Bool) : Nat → Cursor → Option (List Char × Cursor)
  | 0, c => some ([], c)
  | fuel + 1, c =>
    match c.rest with
    | [] => some ([], c)
    | x :: _ =>
      if !isTagChar verbatim x then some ([], c)
      else do
        let (y, n) ← if x == '%' then escapedChar c.rest else some (x, 1)
        let (ys, c) ← tagChars verbatim fuel (c.advanceBy n)
        return (y :: ys, c)

/-- The characters of a tag behind those that have been read already; there is at least one
altogether. -/
def tagText (verbatim : Bool) (read : List Char) (c : Cursor) : Option (String × Cursor) := do
  let (cs, c) ← tagChars verbatim c.rest.length c
  if read.isEmpty && cs.isEmpty then failure
  return (String.ofList (read.drop 1 ++ cs), c)

/-- The handle of a tag: an exclamation mark, then word characters and another one if there is
one. -/
def tagHandle (c : Cursor) : Option (List Char × Cursor) :=
  match c.rest with
  | '!' :: rest =>
    let name := rest.takeWhile isWordChar
    let c := c.advance.skipWhile isWordChar
    if c.rest.head? == some '!' then some ('!' :: name ++ ['!'], c.advance)
    else some ('!' :: name, c)
  | _ => none

/-- Whether characters that were read as a handle are one. -/
def isHandle (cs : List Char) : Bool := 1 < cs.length && cs.getLast? == some '!'

/-- A tag without what has to follow it. -/
def tagBody (c : Cursor) : Option (Token × Cursor) :=
  match c.rest with
  | '!' :: '<' :: _ => do
    let (suffix, c) ← tagText true [] (c.advanceBy 2)
    if c.rest.head? != some '>' then failure
    return (.tag "" suffix, c.advance)
  | _ => do
    let (handle, c) ← tagHandle c
    if isHandle handle then
      let (suffix, c) ← tagText false [] c
      return (.tag (String.ofList handle) suffix, c)
    else
      let (suffix, c) ← tagText false handle c
      return (if suffix.isEmpty then .tag "" "!" else .tag "!" suffix, c)

/-- A tag. A blank has to follow, or a comma within brackets. -/
def tagToken (flow : Bool) (c : Cursor) : Option (Token × Cursor) := do
  let (token, c) ← tagBody c
  if atGap c.rest || (flow && c.rest.head? == some ',') then return (token, c) else failure

/-! ### Directives -/

/-- A number of a version, of nine digits at most. -/
def versionNumber (c : Cursor) : Option (Nat × Cursor) :=
  let ds := c.rest.takeWhile Char.isDigit
  if ds.isEmpty || 9 < ds.length then none
  else some (Text.decimal ds, c.skipWhile Char.isDigit)

/-- The rest of a directive that tells a version. -/
def versionDirective (c : Cursor) : Option (Token × Cursor) := do
  let (major, c) ← versionNumber (c.skipWhile isBlank)
  if c.rest.head? != some '.' then failure
  let (minor, c) ← versionNumber c.advance
  return (.version major minor, c)

/-- The rest of a directive that gives the handle of tags its meaning. -/
def shorthandDirective (c : Cursor) : Option (Token × Cursor) := do
  let (name, c) ← tagHandle (c.skipWhile isBlank)
  if name != ['!'] && !isHandle name then failure
  if !c.rest.head?.any isBlank then failure
  let (meaning, c) ← tagText true [] (c.skipWhile isBlank)
  if !atGap c.rest then failure
  return (.shorthand (String.ofList name) meaning, c)

/-- A directive, from its mark on, with the rest of its line. -/
def directive (c : Cursor) : Option (Token × Cursor) := do
  let c := c.advance
  let name := String.ofList (c.rest.takeWhile isWordChar)
  let c := c.skipWhile isWordChar
  if !atGap c.rest then failure
  let (token, c) ←
    match name with
    | "YAML" => versionDirective c
    | "TAG" => shorthandDirective c
    | _ => none
  let c := c.skipWhile isBlank
  let c := if c.rest.head? == some '#' then c.skipLine else c
  if !c.atLineEnd then failure
  return (token, c.advance)

end Token

end RoleLookup.Yaml
