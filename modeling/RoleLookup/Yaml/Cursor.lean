/-!
# Places in a YAML text

* the classes of characters that YAML tells apart;
* `Cursor`, a place in a text with its line and column;
* `Cursor.ofText?`, the start of a text, unless it holds a control character.

Carriage returns, and the next line character, are line feeds from the start. The line and
paragraph separators end a line too, but stay what they are.
-/

namespace RoleLookup.Yaml

/-- A character that ends a line. -/
def isBreak (c : Char) : Bool := c == '\n' || c == '\u2028' || c == '\u2029'

/-- A space or a tab. -/
def isBlank (c : Char) : Bool := c == ' ' || c == '\t'

/-- A character of an anchor or of the handle of a tag. -/
def isWordChar (c : Char) : Bool := c.isAlphanum || c == '_' || c == '-'

/-- A character that may stand in a text. -/
def isAllowed (c : Char) : Bool :=
  let n := c.toNat
  n == 0x09 || n == 0x0a || n == 0x0d || (0x20 ≤ n && n ≤ 0x7e) || n == 0x85 ||
    (0xa0 ≤ n && n ≤ 0xd7ff) || (0xe000 ≤ n && n ≤ 0xfffd) || 0x10000 ≤ n

/-- Whether what is left of a text is at a space, a tab or the end of a line. -/
def atGap : List Char → Bool
  | [] => true
  | c :: _ => isBlank c || isBreak c

/-- Whether what is left of a line starts with three characters that stand between documents. -/
def atDocumentMark : List Char → Bool
  | '-' :: '-' :: '-' :: rest | '.' :: '.' :: '.' :: rest => atGap rest
  | _ => false

/-- A text with line feeds for carriage returns and next line characters. -/
def normalised : List Char → List Char
  | [] => []
  | '\r' :: '\n' :: rest => '\n' :: normalised rest
  | c :: rest => (if c == '\r' || c == '\u0085' then '\n' else c) :: normalised rest

/-- A place in a text: what is left, and how many characters, lines and columns lie before. -/
structure Cursor where
  rest : List Char
  index : Nat := 0
  line : Nat := 0
  column : Nat := 0
  deriving Repr

namespace Cursor

/-- The place after one character. -/
def advance (c : Cursor) : Cursor :=
  match c.rest with
  | [] => c
  | x :: rest =>
    if isBreak x then ⟨rest, c.index + 1, c.line + 1, 0⟩
    else ⟨rest, c.index + 1, c.line, c.column + 1⟩

/-- The place after some characters. -/
def advanceBy (c : Cursor) : Nat → Cursor
  | 0 => c
  | n + 1 => c.advance.advanceBy n

/-- The place after characters of the same line. -/
def skipWhile (c : Cursor) (p : Char → Bool) : Cursor :=
  let n := (c.rest.takeWhile p).length
  ⟨c.rest.drop n, c.index + n, c.line, c.column + n⟩

/-- Whether the line is over. -/
def atLineEnd (c : Cursor) : Bool := c.rest.head?.all isBreak

/-- Whether a document ends or starts here. -/
def atDocumentMark (c : Cursor) : Bool := c.column == 0 && Yaml.atDocumentMark c.rest

/-- The end of the line. -/
def skipLine (c : Cursor) : Cursor := c.skipWhile fun x => !isBreak x

/-- The byte order mark. -/
def byteOrderMark : Char := '\ufeff'

/-- The start of a text, behind its byte order mark. One more mark is skipped as a character. -/
def ofText? (s : String) : Option Cursor :=
  let cs := s.toList
  let cs := if cs.head? == some byteOrderMark then cs.drop 1 else cs
  if cs.all isAllowed then
    let c : Cursor := { rest := normalised cs }
    some (if c.rest.head? == some byteOrderMark then c.advance else c)
  else none

end Cursor

end RoleLookup.Yaml
