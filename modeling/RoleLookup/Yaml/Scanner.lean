import RoleLookup.Yaml.Token

/-!
# The tokens of a YAML text

The tokens are found one after another. Indentation opens and closes blocks, and a key shows only
when its colon is met, so a token that may turn out to be the start of a key is held back until
the matter is settled.

* `Scanner`, a place in a text, the tokens held back, the open blocks and brackets;
* `Scanner.fetch`, one step;
* `tokens`, the tokens that are found before the text is malformed; the last one is the end of the
  stream if nothing is.
-/

namespace RoleLookup.Yaml

/-- A token that may start a key: its number, its place, and whether nothing else can stand
there. -/
structure PossibleKey where
  number : Nat
  required : Bool
  index : Nat
  line : Nat
  column : Nat
  deriving Repr

/-- The state in which the next token is looked for. -/
structure Scanner where
  cursor : Cursor
  /-- Tokens found and not yet given away. -/
  held : List Token := []
  /-- Number of tokens given away. -/
  given : Nat := 0
  /-- Column of the innermost block. -/
  indent : Int := -1
  /-- Columns of the blocks around it. -/
  outer : List Int := []
  /-- The possible key of the innermost bracket, and those of the brackets around it. -/
  keys : List (Option PossibleKey) := [none]
  /-- Whether a key may start here. -/
  keyAllowed : Bool := true
  deriving Repr

namespace Scanner

/-- Whether a bracket is open. -/
def inFlow (s : Scanner) : Bool := 1 < s.keys.length

/-- The scanner with one more token. -/
def push (s : Scanner) (t : Token) : Scanner := { s with held := s.held ++ [t] }

/-- The scanner with one more token, from its place on to another one. -/
def pushTo (s : Scanner) (t : Token) (c : Cursor) : Scanner :=
  { s with held := s.held ++ [t], cursor := c }

/-- The scanner with a token in front of the one of the given number. -/
def insertAt (s : Scanner) (number : Nat) (t : Token) : Scanner :=
  let n := number - s.given
  { s with held := s.held.take n ++ t :: s.held.drop n }

/-! ### Possible keys -/

/-- Longest key. -/
def longestKey : Nat := 1024

/-- Whether a key can no longer end at a place. -/
def isStale (c : Cursor) (k : PossibleKey) : Bool :=
  k.line < c.line || k.index + longestKey < c.index

/-- Forgets the keys that are too long or on an earlier line. -/
def dropStale (s : Scanner) : Option Scanner :=
  if s.keys.any (·.any fun k => isStale s.cursor k && k.required) then none
  else some { s with keys := s.keys.map (·.filter fun k => !isStale s.cursor k) }

/-- Forgets the possible key of the innermost bracket. -/
def removeKey (s : Scanner) : Option Scanner :=
  match s.keys with
  | some k :: rest => if k.required then none else some { s with keys := none :: rest }
  | _ => some s

/-- Remembers that the next token may start a key. -/
def saveKey (s : Scanner) : Option Scanner :=
  if s.keyAllowed then do
    let s ← s.removeKey
    let c := s.cursor
    let required := !s.inFlow && s.indent == (c.column : Int)
    let k : PossibleKey := ⟨s.given + s.held.length, required, c.index, c.line, c.column⟩
    return { s with keys := some k :: s.keys.drop 1 }
  else some s

/-! ### Blocks -/

/-- Opens a block at a column, if it is deeper than the innermost one. -/
def openBlock (s : Scanner) (column : Nat) (number : Option Nat) (t : Token) : Scanner :=
  if !s.inFlow && s.indent < (column : Int) then
    let s := { s with indent := column, outer := s.indent :: s.outer }
    match number with
    | some n => s.insertAt n t
    | none => s.push t
  else s

/-- Closes the blocks that are deeper than a column. -/
def closeBlocks (column : Int) (s : Scanner) : Scanner :=
  if s.inFlow then s else go s s.outer
where
  /-- Closes the blocks around which the given ones lie. -/
  go (s : Scanner) : List Int → Scanner
    | [] => s
    | i :: rest =>
      if column < s.indent then
        go { s with indent := i, outer := rest, held := s.held ++ [.blockEnd] } rest
      else s

/-! ### Between tokens -/

/-- The place of the next token, and whether a line ended on the way. -/
def nextPlace (flow : Bool) : Nat → Bool → Cursor → Bool × Cursor
  | 0, keyAllowed, c => (keyAllowed, c)
  | fuel + 1, keyAllowed, c =>
    let c := c.skipWhile fun x => x == ' ' || (x == '\t' && (flow || !keyAllowed))
    let c := if c.rest.head? == some '#' then c.skipLine else c
    if c.rest.head?.any isBreak then nextPlace flow fuel (keyAllowed || !flow) c.advance
    else (keyAllowed, c)

/-- Skips what stands between tokens. -/
def skipGap (s : Scanner) : Scanner :=
  let (keyAllowed, cursor) := nextPlace s.inFlow (s.cursor.rest.length + 1) s.keyAllowed s.cursor
  { s with keyAllowed, cursor }

/-! ### Tokens -/

/-- The end of the text. -/
def fetchStreamEnd (s : Scanner) : Option Scanner := do
  let s ← (s.closeBlocks (-1)).removeKey
  return { s with keyAllowed := false }.push .streamEnd

/-- A directive. -/
def fetchDirective (s : Scanner) : Option Scanner := do
  let s ← (s.closeBlocks (-1)).removeKey
  let (t, c) ← Token.directive s.cursor
  return { s with keyAllowed := false }.pushTo t c

/-- The start or end of a document. -/
def fetchDocumentMark (s : Scanner) (t : Token) : Option Scanner := do
  let s ← (s.closeBlocks (-1)).removeKey
  return { s with keyAllowed := false }.pushTo t (s.cursor.advanceBy 3)

/-- An opening bracket. -/
def fetchOpening (s : Scanner) (t : Token) : Option Scanner := do
  let s ← s.saveKey
  return { s with keys := none :: s.keys, keyAllowed := true }.pushTo t s.cursor.advance

/-- A closing bracket. -/
def fetchClosing (s : Scanner) (t : Token) : Option Scanner := do
  let s ← s.removeKey
  let keys := if s.inFlow then s.keys.drop 1 else s.keys
  return { s with keys, keyAllowed := false }.pushTo t s.cursor.advance

/-- A comma between brackets. -/
def fetchFlowEntry (s : Scanner) : Option Scanner := do
  let s ← s.removeKey
  return { s with keyAllowed := true }.pushTo .flowEntry s.cursor.advance

/-- A dash before an element. -/
def fetchBlockEntry (s : Scanner) : Option Scanner := do
  if !s.inFlow && !s.keyAllowed then failure
  let s ← (s.openBlock s.cursor.column none .blockSequenceStart).removeKey
  return { s with keyAllowed := true }.pushTo .blockEntry s.cursor.advance

/-- A question mark before a key. -/
def fetchKey (s : Scanner) : Option Scanner := do
  if !s.inFlow && !s.keyAllowed then failure
  let s ← (s.openBlock s.cursor.column none .blockMappingStart).removeKey
  return { s with keyAllowed := !s.inFlow }.pushTo .key s.cursor.advance

/-- A colon before a value. -/
def fetchValue (s : Scanner) : Option Scanner :=
  match s.keys with
  | some k :: rest =>
    let s := (s.insertAt k.number .key).openBlock k.column (some k.number) .blockMappingStart
    some ({ s with keys := none :: rest, keyAllowed := false }.pushTo .value s.cursor.advance)
  | _ =>
    if !s.inFlow && !s.keyAllowed then none
    else
      let s := s.openBlock s.cursor.column none .blockMappingStart
      some ({ s with keyAllowed := !s.inFlow }.pushTo .value s.cursor.advance)

/-- An anchor or an alias. -/
def fetchAnchor (s : Scanner) (t : String → Token) : Option Scanner := do
  let s ← s.saveKey
  let (name, c) ← Token.anchorName s.cursor
  return { s with keyAllowed := false }.pushTo (t name) c

/-- A tag. -/
def fetchTag (s : Scanner) : Option Scanner := do
  let s ← s.saveKey
  let (t, c) ← Token.tagToken s.inFlow s.cursor
  return { s with keyAllowed := false }.pushTo t c

/-- A block scalar. -/
def fetchBlockScalar (s : Scanner) (literal : Bool) : Option Scanner := do
  let s ← s.removeKey
  let (text, c) ← Scalar.block literal s.indent s.cursor
  return { s with keyAllowed := true }.pushTo
    (.scalar text (if literal then .literal else .folded)) c

/-- A scalar in quotes. -/
def fetchQuoted (s : Scanner) (quote : Char) (style : Style) : Option Scanner := do
  let s ← s.saveKey
  let (text, c) ← Scalar.quoted quote s.cursor
  return { s with keyAllowed := false }.pushTo (.scalar text style) c

/-- A plain scalar. A line break behind it allows a key. -/
def fetchPlain (s : Scanner) : Option Scanner := do
  let s ← s.saveKey
  let (text, broken, c) ← Scalar.plain s.inFlow s.indent s.cursor
  return { s with keyAllowed := broken }.pushTo (.scalar text .plain) c

/-- A character that starts no plain scalar by itself. -/
def isIndicator (c : Char) : Bool := "-?:,[]\x7b\x7d#&*!|>'\"%@\x60".toList.contains c

/-- Whether a plain scalar starts here. -/
def startsPlain (flow : Bool) : List Char → Bool
  | [] => false
  | c :: rest =>
    !(isBlank c || isBreak c || isIndicator c) || (c == '-' && !rest.head?.any isBlank) ||
      (!flow && (c == '?' || c == ':') && !atGap rest)

/-- The next token, from the place where it starts. -/
def fetchHere (s : Scanner) : Option Scanner :=
  let flow := s.inFlow
  match s.cursor.rest with
  | [] => s.fetchStreamEnd
  | c :: rest =>
    if s.cursor.column == 0 && c == '%' then s.fetchDirective
    else if s.cursor.atDocumentMark then
      s.fetchDocumentMark (if c == '-' then .documentStart else .documentEnd)
    else if c == '[' then s.fetchOpening .flowSequenceStart
    else if c == '{' then s.fetchOpening .flowMappingStart
    else if c == ']' then s.fetchClosing .flowSequenceEnd
    else if c == '}' then s.fetchClosing .flowMappingEnd
    else if c == ',' then s.fetchFlowEntry
    else if c == '-' && atGap rest then s.fetchBlockEntry
    else if c == '?' && (flow || atGap rest) then s.fetchKey
    else if c == ':' && (flow || atGap rest) then s.fetchValue
    else if c == '*' then s.fetchAnchor .alias
    else if c == '&' then s.fetchAnchor .anchor
    else if c == '!' then s.fetchTag
    else if c == '|' && !flow then s.fetchBlockScalar true
    else if c == '>' && !flow then s.fetchBlockScalar false
    else if c == '\'' then s.fetchQuoted '\'' .singleQuoted
    else if c == '"' then s.fetchQuoted '"' .doubleQuoted
    else if startsPlain flow s.cursor.rest then s.fetchPlain
    else none

/-- Looks for the next token. -/
def fetch (s : Scanner) : Option Scanner := do
  let s ← s.skipGap.dropStale
  (s.closeBlocks s.cursor.column).fetchHere

/-- Whether the first token that is held back may start a key. -/
def firstIsKey (s : Scanner) : Bool := s.keys.any (·.any (·.number == s.given))

/-- The next token to give away, after as many steps as that takes. -/
def next : Nat → Scanner → Option (Token × Scanner)
  | 0, _ => none
  | fuel + 1, s =>
    match s.held with
    | [] => do next fuel (← s.fetch)
    | t :: held => do
      let s ← s.dropStale
      if s.firstIsKey then next fuel (← s.fetch)
      else return (t, { s with held, given := s.given + 1 })

/-- The tokens from a state on, each of which takes a bounded number of steps. -/
def tokensFrom (steps : Nat) : Nat → Scanner → List Token
  | 0, _ => []
  | fuel + 1, s =>
    match next steps s with
    | none => []
    | some (.streamEnd, _) => [.streamEnd]
    | some (t, s) => t :: tokensFrom steps fuel s

end Scanner

/-- The tokens of a text. A character makes at most four of them. -/
def tokens (s : String) : List Token :=
  match Cursor.ofText? s with
  | none => []
  | some cursor =>
    let n := cursor.rest.length
    Scanner.tokensFrom (n + 3) (4 * n + 8) { cursor }

end RoleLookup.Yaml
