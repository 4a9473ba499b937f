import RoleLookup.DistinguishedName
import RoleLookup.Proofs.Text.Lexical

/-!
# The texts of relative names

RFC 4514, section 2.4, says how relative names are written; a value can also stand between quotes.

* `SpellsChar`, `SpellsRun` and `SpellsValue`, the texts of a character, of a run and of a value;
* `SpellsPair`, `SpellsName`, `SpellsNames` and `Spells`, the texts of a pair, of a relative name
  and of relative names.

These are relations, since already a character has several texts.
-/

namespace RoleLookup.DistinguishedName

open Text

/-- Bytes as pairs of hexadecimal digits, each behind a backslash. -/
inductive HexPairs : List UInt8 → List Char → Prop
  | nil : HexPairs [] []
  | cons {b : UInt8} {bs : List UInt8} {high low : Char} {ws : List Char}
      (hhigh : IsHexDigit high (b.toNat / 16)) (hlow : IsHexDigit low (b.toNat % 16))
      (rest : HexPairs bs ws) : HexPairs (b :: bs) ('\\' :: high :: low :: ws)

/-- The characters that can stand behind a backslash. -/
def escapable : List Char := [' ', '"', '#', '+', ',', ';', '<', '=', '>', '\\', '\x00']

/-- A text of a character, which can stand for itself if it `keep`s. -/
inductive SpellsChar (keep : Bool) (c : Char) : List Char → Prop
  | kept (h : keep = true) : SpellsChar keep c [c]
  | escaped (h : c ∈ escapable) : SpellsChar keep c ['\\', c]
  | hex {ws : List Char} (h : HexPairs (String.utf8EncodeChar c) ws) : SpellsChar keep c ws

/-- Whether a character can stand for itself, where it is or is not the first and the last of its
value. -/
abbrev Keeps := Bool → Bool → Char → Bool

/-- In a plain value, all special characters need an escape, and so do spaces at its ends and a
number sign at its start. -/
def keepsPlain : Keeps := fun first last c =>
  c ∉ ['"', '+', ',', ';', '<', '>', '\\', '\x00'] && !(first && (c == ' ' || c == '#')) &&
    !(last && c == ' ')

/-- Between quotes, quotes and backslashes need an escape. -/
def keepsQuoted : Keeps := fun _ _ c => c ∉ ['"', '\\']

/-- A text of the characters of a value, character by character. -/
inductive SpellsRun (keeps : Keeps) : Bool → List Char → List Char → Prop
  | nil {first : Bool} : SpellsRun keeps first [] []
  | cons {first : Bool} {c : Char} {cs ws vs : List Char}
      (head : SpellsChar (keeps first cs.isEmpty c) c ws) (tail : SpellsRun keeps false cs vs) :
      SpellsRun keeps first (c :: cs) (ws ++ vs)

/-- A text of a value. -/
inductive SpellsValue (value : List Char) : List Char → Prop
  | plain {ws : List Char} (h : SpellsRun keepsPlain true value ws) : SpellsValue value ws
  | quoted {ws : List Char} (h : SpellsRun keepsQuoted true value ws) :
      SpellsValue value ('"' :: ws ++ ['"'])

/-- Some spaces. -/
def spaces (n : Nat) : List Char := List.replicate n ' '

/-- A text of a pair, with spaces before and behind the type and the value. -/
inductive SpellsPair (p : Pair) : List Char → Prop
  | mk {ws : List Char} (h : SpellsValue p.value.toList ws) (i j k l : Nat) :
      SpellsPair p (spaces i ++ p.attributeType.toList ++ spaces j ++
        '=' :: (spaces k ++ ws ++ spaces l))

/-- A text of a relative name, which has at least one pair. -/
inductive SpellsName : RelativeName → List Char → Prop
  | one {p : Pair} {ws : List Char} (h : SpellsPair p ws) : SpellsName [p] ws
  | more {p : Pair} {name : RelativeName} {ws vs : List Char} (h : SpellsPair p ws)
      (rest : SpellsName name vs) : SpellsName (p :: name) (ws ++ '+' :: vs)

/-- A text of at least one relative name. -/
inductive SpellsNames : List RelativeName → List Char → Prop
  | one {name : RelativeName} {ws : List Char} (h : SpellsName name ws) : SpellsNames [name] ws
  | more {name : RelativeName} {names : List RelativeName} {ws vs : List Char} {separator : Char}
      (h : SpellsName name ws) (hs : separator = ',' ∨ separator = ';')
      (rest : SpellsNames names vs) : SpellsNames (name :: names) (ws ++ separator :: vs)

/-- A text of relative names. If there are none, it is empty but for spaces. -/
inductive Spells : List RelativeName → List Char → Prop
  | none (n : Nat) : Spells [] (spaces n)
  | some {names : List RelativeName} {ws : List Char} (h : SpellsNames names ws) : Spells names ws

end RoleLookup.DistinguishedName
