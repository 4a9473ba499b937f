import RoleLookup.Text.Digits
import RoleLookup.Yaml.Cursor

/-!
# YAML scalars

The text of a scalar, read from where it starts. `none` stands for a malformed scalar.

* `plain`, a scalar without quotes, which ends where something else can begin;
* `quoted`, a scalar in single or double quotes;
* `block`, a scalar of whole lines, kept or folded.

Between two words a line break becomes a space, and of several line breaks the first is dropped.
-/

namespace RoleLookup.Yaml.Scalar

/-! ### Between words -/

/-- What stands between two words: blanks, or line breaks with the blanks around them dropped. -/
structure Gap where
  blanks : List Char := []
  breaks : List Char := []
  deriving Repr

/-- The text that a gap leaves. After an escaped line break nothing is folded. -/
def Gap.fold (g : Gap) (escaped : Bool) : List Char :=
  if escaped then g.breaks
  else
    match g.breaks with
    | [] => g.blanks
    | ['\n'] => [' ']
    | '\n' :: more => more
    | breaks => breaks

/-- The gap from a place on. A tab behind a line break is refused before a column. -/
def gapFrom (indent : Int) : Nat → Gap → Bool → Cursor → Option (Gap × Cursor)
  | 0, g, _, c => some (g, c)
  | fuel + 1, g, folded, c =>
    match c.rest with
    | [] => some (g, c)
    | x :: _ =>
      if isBlank x then
        if folded && x == '\t' && (c.column : Int) < indent then none
        else
          gapFrom indent fuel (if folded then g else { g with blanks := g.blanks ++ [x] }) folded
            c.advance
      else if isBreak x then
        gapFrom indent fuel { blanks := [], breaks := g.breaks ++ [x] } true c.advance
      else some (g, c)

/-- The gap at a place. -/
def gap (indent : Int) (folded : Bool) (c : Cursor) : Option (Gap × Cursor) :=
  gapFrom indent c.rest.length {} folded c

/-! ### Plain scalars -/

/-- A character that ends a plain scalar within brackets. -/
def isFlowEnd (c : Char) : Bool := c == ',' || c == '[' || c == ']' || c == '{' || c == '}'

/-- The length of the word of a plain scalar. -/
def plainWord (flow : Bool) : List Char → Option Nat
  | [] => some 0
  | c :: rest =>
    if isBlank c || isBreak c then some 0
    else if flow && c == ':' && rest.head?.any (fun d => isFlowEnd d || d == '?') then none
    else if (c == ':' && atGap rest) || (flow && isFlowEnd c) then some 0
    else (plainWord flow rest).map (· + 1)

/-- A plain scalar from one of its words on: the text before it in reverse order, and the gap
before the word. The answer says whether the scalar is followed by a line break. -/
def plainFrom (flow : Bool) (indent : Int) :
    Nat → List Char → Gap → Cursor → Option (List Char × Bool × Cursor)
  | 0, text, g, c => some (text.reverse, !g.breaks.isEmpty, c)
  | fuel + 1, text, g, c => do
    let stop := (text.reverse, !g.breaks.isEmpty, c)
    if c.atDocumentMark || c.rest.head? == some '#' then return stop
    let n ← plainWord flow c.rest
    if n == 0 then return stop
    let text := (c.rest.take n).reverse ++ ((g.fold false).reverse ++ text)
    let c := c.advanceBy n
    if c.rest.isEmpty || !atGap c.rest then return (text.reverse, false, c)
    let (g, c) ← gap indent false c
    if !flow && (c.column : Int) < indent then return (text.reverse, !g.breaks.isEmpty, c)
    plainFrom flow indent fuel text g c

/-- A plain scalar, within brackets or not, in a block that is indented by some columns. -/
def plain (flow : Bool) (indent : Int) (c : Cursor) : Option (String × Bool × Cursor) := do
  let (text, broken, c) ← plainFrom flow (indent + 1) (c.rest.length + 1) [] {} c
  return (String.ofList text, broken, c)

/-! ### Quoted scalars -/

/-- The character that a number of hexadecimal digits stand for. -/
def hexEscape (digits : Nat) (cs : List Char) : Option (Char × Nat) :=
  let ds := cs.take digits
  let n := Text.numberIn 16 ds
  if ds.length == digits && ds.all Text.isHexDigit && (n < 0xd800 || 0xdfff < n) && n ≤ 0x10ffff
  then some (Char.ofNat n, digits + 1)
  else none

/-- The character that stands for what follows a backslash, and the length of that. -/
def escape : List Char → Option (Char × Nat)
  | '0' :: _ => some ('\x00', 1)
  | 'a' :: _ => some ('\x07', 1)
  | 'b' :: _ => some ('\x08', 1)
  | 't' :: _ | '\t' :: _ => some ('\t', 1)
  | 'n' :: _ => some ('\n', 1)
  | 'v' :: _ => some ('\x0b', 1)
  | 'f' :: _ => some ('\x0c', 1)
  | 'r' :: _ => some ('\r', 1)
  | 'e' :: _ => some ('\x1b', 1)
  | ' ' :: _ => some (' ', 1)
  | '"' :: _ => some ('"', 1)
  | '/' :: _ => some ('/', 1)
  | '\\' :: _ => some ('\\', 1)
  | 'N' :: _ => some ('\u0085', 1)
  | '_' :: _ => some ('\u00a0', 1)
  | 'L' :: _ => some ('\u2028', 1)
  | 'P' :: _ => some ('\u2029', 1)
  | 'x' :: rest => hexEscape 2 rest
  | 'u' :: rest => hexEscape 4 rest
  | 'U' :: rest => hexEscape 8 rest
  | _ => none

/-- A word of a quoted scalar, added in reverse order, and whether an escaped line break ends it.
-/
def quotedWord (quote : Char) :
    Nat → List Char → Cursor → Option (List Char × Bool × Cursor)
  | 0, text, c => some (text, false, c)
  | fuel + 1, text, c =>
    match c.rest with
    | [] => some (text, false, c)
    | x :: rest =>
      if isBlank x || isBreak x then some (text, false, c)
      else if x == quote then
        if quote == '\'' && rest.head? == some '\'' then
          quotedWord quote fuel ('\'' :: text) (c.advanceBy 2)
        else some (text, false, c)
      else if quote == '"' && x == '\\' then
        if rest.head?.any isBreak then some (text, true, c.advanceBy 2)
        else
          match escape rest with
          | some (y, n) => quotedWord quote fuel (y :: text) (c.advanceBy (n + 1))
          | none => none
      else quotedWord quote fuel (x :: text) c.advance

/-- A quoted scalar from one of its words on, up to the closing quote. -/
def quotedFrom (quote : Char) : Nat → List Char → Cursor → Option (List Char × Cursor)
  | 0, _, _ => none
  | fuel + 1, text, c => do
    if c.atDocumentMark || c.rest.isEmpty then failure
    let (text, escaped, c) ← quotedWord quote c.rest.length text c
    if !escaped && c.rest.head? == some quote then return (text.reverse, c.advance)
    let (g, c) ← gap 0 escaped c
    quotedFrom quote fuel ((g.fold escaped).reverse ++ text) c

/-- A scalar in quotes, from the opening quote on. -/
def quoted (quote : Char) (c : Cursor) : Option (String × Cursor) := do
  let (text, c) ← quotedFrom quote (c.rest.length + 1) [] c.advance
  return (String.ofList text, c)

/-! ### Block scalars -/

/-- What happens to the line breaks at the end of a block scalar. -/
inductive Chomping
  | strip
  | clip
  | keep
  deriving DecidableEq, Repr

/-- Reads how the end is chomped. -/
def chomping? : Option Char → Option Chomping
  | some '+' => some .keep
  | some '-' => some .strip
  | _ => none

/-- Reads a number of columns, which cannot be zero; zero stands for no number. -/
def columns? (c : Cursor) : Option (Nat × Cursor) :=
  match c.rest with
  | d :: _ =>
    if d == '0' then none
    else if d.isDigit then some (d.toNat - 48, c.advance)
    else some (0, c)
  | [] => some (0, c)

/-- The signs behind the mark of a block scalar, in either order. -/
def header (c : Cursor) : Option (Chomping × Nat × Cursor) :=
  match chomping? c.rest.head? with
  | some chomping => do
    let (n, c) ← columns? c.advance
    return (chomping, n, c)
  | none => do
    let (n, c) ← columns? c
    match n, chomping? c.rest.head? with
    | 0, _ | _, none => return (.clip, n, c)
    | n, some chomping => return (chomping, n, c.advance)

/-- Empty lines from a place on, with the indentation of the line behind them skipped. As long as
the indentation is not known it is zero, and the longest one of the empty lines is kept. -/
def emptyLines (indent : Nat) : Nat → Nat → List Char → Cursor → Option (Nat × List Char × Cursor)
  | 0, longest, breaks, c => some (longest, breaks, c)
  | fuel + 1, longest, breaks, c =>
    let spaces := (c.rest.takeWhile (· == ' ')).length
    let c := c.advanceBy (if indent == 0 then spaces else min spaces (indent - c.column))
    let longest := max longest c.column
    match c.rest with
    | [] => some (longest, breaks, c)
    | x :: _ =>
      if x == '\t' && (indent == 0 || c.column < indent) then none
      else if isBreak x then emptyLines indent fuel longest (breaks ++ [x]) c.advance
      else some (longest, breaks, c)

/-- The lines of a block scalar, each added in reverse order: the break of the line before, the
empty lines behind that, and whether the line before started with a blank. The answer has the
breaks at the end. -/
def blockLines (literal : Bool) (indent : Nat) :
    Nat → List Char → List Char → List Char → Bool → Cursor →
      Option (List Char × List Char × List Char × Cursor)
  | 0, text, lineBreak, empty, _, c => some (text, lineBreak, empty, c)
  | fuel + 1, text, lineBreak, empty, blankBefore, c =>
    if c.column != indent || c.rest.isEmpty then some (text, lineBreak, empty, c)
    else do
      let blank := c.rest.head?.any isBlank
      let folds := !literal && lineBreak == ['\n'] && !blankBefore && !blank
      let join := if folds then (if empty.isEmpty then [' '] else []) else lineBreak
      let line := c.rest.takeWhile fun x => !isBreak x
      let text := line.reverse ++ (empty.reverse ++ (join.reverse ++ text))
      let c := c.skipLine
      let lineBreak := c.rest.take 1
      let (_, empty, c) ← emptyLines indent (c.rest.length + 1) 0 [] c.advance
      blockLines literal indent fuel text lineBreak empty blank c

/-- A block scalar, from its mark on, in a block that is indented by some columns. -/
def block (literal : Bool) (outer : Int) (c : Cursor) : Option (String × Cursor) := do
  let (chomping, columns, c) ← header c.advance
  let c := c.skipWhile isBlank
  let c := if c.rest.head? == some '#' then c.skipLine else c
  if !c.atLineEnd then failure
  let c := c.advance
  let asked := if columns == 0 then 0 else if 0 ≤ outer then outer.toNat + columns else columns
  let (longest, empty, c) ← emptyLines asked (c.rest.length + 1) 0 [] c
  let indent := if asked == 0 then max longest (max (outer + 1).toNat 1) else asked
  let (text, lineBreak, empty, c) ←
    blockLines literal indent (c.rest.length + 1) [] [] empty false c
  let tail :=
    match chomping with
    | .strip => []
    | .clip => lineBreak
    | .keep => lineBreak ++ empty
  return (String.ofList (text.reverse ++ tail), c)

end RoleLookup.Yaml.Scalar
