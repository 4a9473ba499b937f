import RoleLookup.Text.Digits
import RoleLookup.Text.Utf8

/-!
# Search filters

* `Filter`, what a search asks of an entry;
* `Filter.equality`, the text of a filter for one value of an attribute, with the characters that
  mean something else in a filter escaped;
* `Filter.read?`, the filter that a text stands for.

An escape is a backslash and two hexadecimal digits for one byte. Values are bytes; a character
that stands for itself gives the bytes of its encoding.
-/

namespace RoleLookup.Directory

open Text

/-- What a search asks of an entry. -/
inductive Filter
  | all (parts : List Filter)
  | any (parts : List Filter)
  | negated (part : Filter)
  | equal (name : String) (value : List UInt8)
  | present (name : String)
  /-- A value that starts, goes on and ends in given ways; an empty end asks nothing. -/
  | substrings (name : String) (start : List UInt8) (middle : List (List UInt8))
      (finish : List UInt8)
  | greaterOrEqual (name : String) (value : List UInt8)
  | lessOrEqual (name : String) (value : List UInt8)
  | similar (name : String) (value : List UInt8)
  /-- A value that a rule accepts, also among the values in the name of the entry. -/
  | extensible (name : Option String) (inName : Bool) (rule : Option String)
      (value : List UInt8)
  deriving Repr, BEq

namespace Filter

/-! ### Writing -/

/-- Whether a character means something else in a filter than itself. -/
def isSpecial (c : Char) : Bool :=
  c == '\\' || c == '*' || c == '(' || c == ')' || c == '\x00'

/-- A character as it stands in a value. -/
def escapedChar (c : Char) : List Char :=
  if isSpecial c then '\\' :: (twoHex c.toNat).toList else [c]

/-- A text as it stands in a value. -/
def escape (s : String) : String := String.ofList (s.toList.flatMap escapedChar)

/-- A filter for one value of an attribute. -/
def equality (name value : String) : String := "(" ++ name ++ "=" ++ escape value ++ ")"

/-! ### Reading -/

/-- Whether a character can stand for itself in a value. -/
def standsInValue (c : Char) : Bool := c != '\x00' && c != '(' && c != ')' && c != '*'

/-- Reads a value. -/
def value? : List Char → Option (List UInt8 × List Char)
  | [] => some ([], [])
  | '\\' :: a :: b :: rest => do
    let high ← hexDigit? a
    let low ← hexDigit? b
    let (value, rest) ← value? rest
    return (UInt8.ofNat (16 * high + low) :: value, rest)
  | '\\' :: _ => none
  | c :: rest =>
    if standsInValue c then do
      let (value, rest) ← value? rest
      return (String.utf8EncodeChar c ++ value, rest)
    else some ([], c :: rest)

/-- Whether a character can stand in a name. -/
def standsInName (c : Char) : Bool := c.isAlphanum || c == '-'

/-- Reads a short name: a letter, then letters, digits and hyphens. -/
def shortName? : List Char → Option (List Char × List Char)
  | c :: rest =>
    if c.isAlpha then some (c :: rest.takeWhile standsInName, rest.dropWhile standsInName)
    else none
  | [] => none

/-- Reads a number without leading zeros. -/
def number? (cs : List Char) : Option (List Char × List Char) :=
  match cs.takeWhile Char.isDigit with
  | [] => none
  | '0' :: _ :: _ => none
  | digits => some (digits, cs.drop digits.length)

/-- Reads the numbers of an object identifier after the first, each behind a point. -/
def moreNumbers : Nat → List Char → List Char × List Char
  | 0, cs => ([], cs)
  | fuel + 1, cs =>
    match cs with
    | '.' :: rest =>
      match number? rest with
      | some (digits, rest) =>
        let (more, rest) := moreNumbers fuel rest
        ('.' :: digits ++ more, rest)
      | none => ([], cs)
    | _ => ([], cs)

/-- Reads an object identifier: numbers with points between them, at least two. -/
def identifier? (cs : List Char) : Option (List Char × List Char) := do
  let (first, rest) ← number? cs
  let (more, rest) := moreNumbers rest.length rest
  if more.isEmpty then none else some (first ++ more, rest)

/-- Reads the type of an attribute: a short name or an object identifier. -/
def attributeType? (cs : List Char) : Option (List Char × List Char) :=
  (identifier? cs).or (shortName? cs)

/-- Reads the options of an attribute, each behind a semicolon. -/
def options : Nat → List Char → List Char × List Char
  | 0, cs => ([], cs)
  | fuel + 1, cs =>
    match cs with
    | ';' :: rest =>
      match rest.takeWhile standsInName with
      | [] => ([], cs)
      | option =>
        let (more, rest) := options fuel (rest.drop option.length)
        (';' :: option ++ more, rest)
    | _ => ([], cs)

/-- Reads the description of an attribute: its type and its options. -/
def description? (cs : List Char) : Option (String × List Char) := do
  let (type, rest) ← attributeType? cs
  let (more, rest) := options rest.length rest
  return (String.ofList (type ++ more), rest)

/-- Reads values, each behind an asterisk. -/
def pieces : Nat → List Char → List (List UInt8) × List Char
  | 0, cs => ([], cs)
  | fuel + 1, cs =>
    match cs with
    | '*' :: rest =>
      match value? rest with
      | some (value, rest) =>
        let (more, rest) := pieces fuel rest
        (value :: more, rest)
      | none => ([], cs)
    | _ => ([], cs)

/-- The filter for a value and the pieces behind it. A piece between two asterisks is not empty. -/
def ofPieces? (name : String) (start : List UInt8) (pieces : List (List UInt8)) :
    Option Filter :=
  match pieces.reverse with
  | [] => some (.equal name start)
  | finish :: middle =>
    if start.isEmpty && middle.isEmpty && finish.isEmpty then some (.present name)
    else if middle.any List.isEmpty then none
    else some (.substrings name start middle.reverse finish)

/-- Reads an equality, presence or substring match. -/
def matching? (cs : List Char) : Option (Filter × List Char) := do
  let (name, rest) ← description? cs
  match rest with
  | '=' :: rest =>
    let (start, rest) ← value? rest
    let (pieces, rest) := pieces rest.length rest
    let filter ← ofPieces? name start pieces
    return (filter, rest)
  | _ => none

/-- Reads a comparison. -/
def comparison? (cs : List Char) : Option (Filter × List Char) := do
  let (name, rest) ← description? cs
  let (kind, rest) ←
    match rest with
    | '>' :: '=' :: rest => some (Filter.greaterOrEqual, rest)
    | '<' :: '=' :: rest => some (Filter.lessOrEqual, rest)
    | '~' :: '=' :: rest => some (Filter.similar, rest)
    | _ => none
  let (value, rest) ← value? rest
  return (kind name value, rest)

/-- Reads the mark that asks for the name of the entry too. -/
def inName : List Char → Bool × List Char
  | ':' :: 'd' :: 'n' :: rest => (true, rest)
  | rest => (false, rest)

/-- Reads the rule of an extensible match behind a colon. -/
def rule? : List Char → Option (String × List Char)
  | ':' :: rest => do
    let (rule, rest) ← attributeType? rest
    return (String.ofList rule, rest)
  | _ => none

/-- Reads the value of an extensible match. -/
def extensibleValue? : List Char → Option (List UInt8 × List Char)
  | ':' :: '=' :: rest => value? rest
  | _ => none

/-- Reads an extensible match. It has an attribute or a rule. -/
def extensible? (cs : List Char) : Option (Filter × List Char) :=
  match description? cs with
  | some (name, rest) => do
    let (inName, rest) := inName rest
    let (rule, rest) :=
      match rule? rest with
      | some (rule, rest) => (some rule, rest)
      | none => (none, rest)
    let (value, rest) ← extensibleValue? rest
    return (.extensible (some name) inName rule value, rest)
  | none => do
    let (inName, rest) := inName cs
    let (rule, rest) ← rule? rest
    let (value, rest) ← extensibleValue? rest
    return (.extensible none inName (some rule) value, rest)

/-- Reads a filter that is not composed of others. -/
def item? (cs : List Char) : Option (Filter × List Char) :=
  ((matching? cs).or (comparison? cs)).or (extensible? cs)

mutual

/-- Reads a filter between parentheses. -/
def group? : Nat → List Char → Option (Filter × List Char)
  | fuel + 1, '(' :: rest => do
    let (filter, rest) ← component? fuel rest
    match rest with
    | ')' :: rest => return (filter, rest)
    | _ => none
  | _, _ => none

/-- Reads what stands between the parentheses. -/
def component? : Nat → List Char → Option (Filter × List Char)
  | fuel + 1, '&' :: rest =>
    let (parts, rest) := groups fuel rest
    some (.all parts, rest)
  | fuel + 1, '|' :: rest =>
    let (parts, rest) := groups fuel rest
    some (.any parts, rest)
  | fuel + 1, '!' :: rest => do
    let (part, rest) ← group? fuel rest
    return (.negated part, rest)
  | _, rest => item? rest

/-- Reads filters between parentheses, as many as there are. -/
def groups : Nat → List Char → List Filter × List Char
  | 0, cs => ([], cs)
  | fuel + 1, cs =>
    match group? fuel cs with
    | some (filter, rest) =>
      let (filters, rest) := groups fuel rest
      (filter :: filters, rest)
    | none => ([], cs)

end

/-- The filter that a text stands for. The parentheses around it may be left out if it is not
composed of others. -/
def read? (s : String) : Option Filter :=
  let cs := s.toList
  match (group? (2 * cs.length + 1) cs).or (item? cs) with
  | some (filter, []) => some filter
  | _ => none

end Filter

end RoleLookup.Directory
