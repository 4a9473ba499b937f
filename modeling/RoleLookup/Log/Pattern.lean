import RoleLookup.Text.Digits

/-!
# Patterns

A pattern stands for a set of texts.

* `CharacterSet`, a set of characters;
* `Pattern`, a pattern, and `Pattern.accepts`, whether a whole text is in its set;
* `Pattern.parse?`, the pattern that a text writes down.

A text is matched by derivatives: what is left of a pattern after one more character.
-/

namespace RoleLookup.Log

/-- The characters in some ranges, or all others. -/
structure CharacterSet where
  negated : Bool := false
  ranges : List (Char × Char)
  deriving DecidableEq, Repr

namespace CharacterSet

/-- Whether a character is in a set. -/
def contains (s : CharacterSet) (c : Char) : Bool :=
  s.negated != s.ranges.any fun (low, high) => low ≤ c && c ≤ high

/-- One character. -/
def single (c : Char) : CharacterSet := { ranges := [(c, c)] }

/-- All characters but the line feed. -/
def anyOnLine : CharacterSet := { negated := true, ranges := [('\n', '\n')] }

/-- The digits. -/
def digits : List (Char × Char) := [('0', '9')]

/-- Letters, digits and the underscore. -/
def wordCharacters : List (Char × Char) := [('0', '9'), ('A', 'Z'), ('_', '_'), ('a', 'z')]

/-- Blanks and line ends. -/
def blanks : List (Char × Char) := [('\t', '\r'), (' ', ' ')]

end CharacterSet

/-- A set of texts. -/
inductive Pattern
  | nothing
  | blank
  | one (set : CharacterSet)
  | chain (first second : Pattern)
  | either (first second : Pattern)
  | many (part : Pattern)
  deriving DecidableEq, Repr

namespace Pattern

/-! ### Matching -/

/-- Whether the empty text is in the set. -/
def acceptsEmpty : Pattern → Bool
  | nothing | one _ => false
  | blank | many _ => true
  | chain p q => p.acceptsEmpty && q.acceptsEmpty
  | either p q => p.acceptsEmpty || q.acceptsEmpty

/-- A chain, shortened if a part is trivial. -/
def chained : Pattern → Pattern → Pattern
  | nothing, _ | _, nothing => nothing
  | blank, q => q
  | p, blank => p
  | p, q => chain p q

/-- A choice, shortened if a part is trivial. -/
def alternative (p q : Pattern) : Pattern :=
  if p = nothing then q else if q = nothing then p else if p = q then p else either p q

/-- The texts that go on after a character. -/
def after (c : Char) : Pattern → Pattern
  | nothing | blank => nothing
  | one s => if s.contains c then blank else nothing
  | chain p q =>
    let rest := chained (p.after c) q
    if p.acceptsEmpty then alternative rest (q.after c) else rest
  | either p q => alternative (p.after c) (q.after c)
  | many p => chained (p.after c) (many p)

/-- Whether a text is in the set. -/
def accepts (p : Pattern) (s : String) : Bool :=
  (s.toList.foldl (fun p c => p.after c) p).acceptsEmpty

/-! ### Repetition -/

/-- A pattern a number of times. -/
def times (p : Pattern) : Nat → Pattern
  | 0 => blank
  | n + 1 => chained p (p.times n)

/-- A pattern at most a number of times. -/
def atMost (p : Pattern) : Nat → Pattern
  | 0 => blank
  | n + 1 => alternative blank (chained p (p.atMost n))

/-! ### Reading -/

/-- The character that stands behind a backslash. -/
def escaped : Char → CharacterSet
  | 'd' => { ranges := CharacterSet.digits }
  | 'D' => { negated := true, ranges := CharacterSet.digits }
  | 'w' => { ranges := CharacterSet.wordCharacters }
  | 'W' => { negated := true, ranges := CharacterSet.wordCharacters }
  | 's' => { ranges := CharacterSet.blanks }
  | 'S' => { negated := true, ranges := CharacterSet.blanks }
  | 'n' => .single '\n'
  | 't' => .single '\t'
  | 'r' => .single '\r'
  | c => .single c

/-- Reads the ranges between square brackets. -/
def ranges? : Nat → List Char → Option (List (Char × Char) × List Char)
  | 0, _ => none
  | _, [] => none
  | _, ']' :: rest => some ([], rest)
  | fuel + 1, '\\' :: c :: rest => do
    let (more, rest) ← ranges? fuel rest
    return ((escaped c).ranges ++ more, rest)
  | fuel + 1, low :: '-' :: high :: rest =>
    if high = ']' then do
      let (more, rest) ← ranges? fuel (high :: rest)
      return ((low, low) :: ('-', '-') :: more, rest)
    else do
      let (more, rest) ← ranges? fuel rest
      if low ≤ high then return ((low, high) :: more, rest) else none
  | fuel + 1, c :: rest => do
    let (more, rest) ← ranges? fuel rest
    return ((c, c) :: more, rest)

/-- Reads the characters of a set up to its closing bracket. -/
def set? (cs : List Char) : Option (CharacterSet × List Char) :=
  let (negated, cs) :=
    match cs with
    | '^' :: rest => (true, rest)
    | _ => (false, cs)
  match cs with
  | ']' :: rest => do
    let (ranges, rest) ← ranges? rest.length rest
    return (⟨negated, (']', ']') :: ranges⟩, rest)
  | _ => do
    let (ranges, rest) ← ranges? cs.length cs
    return (⟨negated, ranges⟩, rest)

/-- Most repetitions that may be asked for. -/
def mostRepetitions : Nat := 1000

/-- Reads the bounds of a repetition behind the opening brace. -/
def bounds? (cs : List Char) : Option ((Nat × Option Nat) × List Char) :=
  let number? (digits : List Char) : Option Nat :=
    if digits.isEmpty then none
    else
      let n := Text.decimal digits
      if n ≤ mostRepetitions then some n else none
  let low := cs.takeWhile Char.isDigit
  match cs.drop low.length with
  | '\x7d' :: rest => do
    let n ← number? low
    return ((n, some n), rest)
  | ',' :: '\x7d' :: rest => do
    let n ← number? low
    return ((n, none), rest)
  | ',' :: rest => do
    let high := rest.takeWhile Char.isDigit
    let n ← number? low
    let m ← number? high
    match rest.drop high.length with
    | '\x7d' :: rest => if n ≤ m then return ((n, some m), rest) else none
    | _ => none
  | _ => none

/-- Leaves out the mark of a repetition that is to be short. -/
def skipLazy : List Char → List Char
  | '?' :: rest => rest
  | rest => rest

/-- Reads the repetitions behind a part. -/
def repeated? : Nat → Pattern → List Char → Option (Pattern × List Char)
  | 0, p, cs => some (p, cs)
  | fuel + 1, p, cs =>
    match cs with
    | '*' :: rest => repeated? fuel (many p) (skipLazy rest)
    | '+' :: rest => repeated? fuel (chained p (many p)) (skipLazy rest)
    | '?' :: rest => repeated? fuel (alternative blank p) (skipLazy rest)
    | '\x7b' :: rest => do
      let ((low, high), rest) ← bounds? rest
      let tail :=
        match high with
        | none => many p
        | some high => p.atMost (high - low)
      repeated? fuel (chained (p.times low) tail) (skipLazy rest)
    | _ => some (p, cs)

mutual

/-- Reads alternatives. -/
def choice? : Nat → List Char → Option (Pattern × List Char)
  | 0, _ => none
  | fuel + 1, cs => do
    let (first, rest) ← sequence? fuel cs
    match rest with
    | '|' :: rest =>
      let (others, rest) ← choice? fuel rest
      return (alternative first others, rest)
    | _ => return (first, rest)

/-- Reads parts one after another. The marks of the start and the end of the text ask nothing. -/
def sequence? : Nat → List Char → Option (Pattern × List Char)
  | 0, _ => none
  | fuel + 1, cs =>
    match cs with
    | [] => some (blank, [])
    | '|' :: _ | ')' :: _ => some (blank, cs)
    | '^' :: rest | '$' :: rest => sequence? fuel rest
    | _ => do
      let (part, rest) ← part? fuel cs
      let (part, rest) ← repeated? rest.length part rest
      let (others, rest) ← sequence? fuel rest
      return (chained part others, rest)

/-- Reads one part. -/
def part? : Nat → List Char → Option (Pattern × List Char)
  | 0, _ => none
  | fuel + 1, cs =>
    match cs with
    | '(' :: '?' :: ':' :: rest | '(' :: rest => do
      let (inner, rest) ← choice? fuel rest
      match rest with
      | ')' :: rest => return (inner, rest)
      | _ => none
    | '[' :: rest => do
      let (set, rest) ← set? rest
      return (one set, rest)
    | '.' :: rest => some (one .anyOnLine, rest)
    | '\\' :: c :: rest => some (one (escaped c), rest)
    | '*' :: _ | '+' :: _ | '?' :: _ | '\x7b' :: _ | '\\' :: _ | [] => none
    | c :: rest => some (one (.single c), rest)

end

/-- The pattern that a text writes down. -/
def parse? (s : String) : Option Pattern :=
  let cs := s.toList
  match choice? (3 * cs.length + 3) cs with
  | some (p, []) => some p
  | _ => none

end Pattern

end RoleLookup.Log
