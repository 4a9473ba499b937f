import RoleLookup.Text.Blank
import RoleLookup.Text.Utf8

/-!
# Distinguished names

Group memberships name their groups by distinguished names: relative names joined by `,` or `;`,
each of one or more pairs `type=value` joined by `+`.

* `Cursor`, the unread bytes of a name and their offset;
* `Cursor.attributeType`, `Cursor.value`, `Cursor.pair`, the scanners of one pair;
* `parse`, the relative names of a text with all escapes resolved;
* `firstCommonName`, the value of the first common name.

A value is a quoted run or a plain run. In both a backslash stands before two hexadecimal digits
or before one other byte. Every scanner stops on a byte that starts a character, so the offsets in
`Error` are character boundaries.
-/

namespace RoleLookup.DistinguishedName

open Text

/-- Why a text is not a distinguished name. Offsets count bytes. -/
inductive Error
  | missingEquals (offset : Nat)
  | emptyAttributeType (offset : Nat)
  | invalidEscape (offset : Nat)
  | unterminatedQuote (offset : Nat)
  | unexpectedCharacter (offset : Nat)
  | invalidUtf8
  deriving DecidableEq, Repr

/-- Wording of an error. -/
def Error.message : Error → String
  | .missingEquals n => s!"attribute starting at {n} has no '='"
  | .emptyAttributeType n => s!"empty attribute type at {n}"
  | .invalidEscape n => s!"invalid escape sequence at {n}"
  | .unterminatedQuote n => s!"unterminated quoted value starting at {n}"
  | .unexpectedCharacter n => s!"unexpected character at {n}"
  | .invalidUtf8 => "value is not valid UTF-8"

/-- One pair `type=value`. -/
structure Pair where
  attributeType : String
  value : String
  deriving DecidableEq, Repr

/-- The pairs of one relative name, in order. -/
abbrev RelativeName := List Pair

/-! ### Bytes -/

/-- The byte `' '`. -/
def space : UInt8 := 0x20
/-- The byte `'"'`. -/
def quote : UInt8 := 0x22
/-- The byte `'+'`. -/
def plus : UInt8 := 0x2b
/-- The byte `'='`. -/
def equals : UInt8 := 0x3d
/-- The byte `'\'`. -/
def backslash : UInt8 := 0x5c

/-- The bytes `','`, `'+'` and `';'`, which end a plain value. -/
def isSeparator (b : UInt8) : Bool := b == 0x2c || b == 0x2b || b == 0x3b

/-- The value of a hexadecimal digit. -/
def hexValue? (b : UInt8) : Option UInt8 :=
  if 0x30 ≤ b && b ≤ 0x39 then some (b - 0x30)
  else if 0x61 ≤ b && b ≤ 0x66 then some (b - 0x61 + 10)
  else if 0x41 ≤ b && b ≤ 0x46 then some (b - 0x41 + 10)
  else none

/-! ### Scanners -/

/-- The unread bytes and the offset of the first of them. -/
structure Cursor where
  offset : Nat
  rest : List UInt8
  deriving DecidableEq, Repr

/-- A cursor at the start of a text. -/
def Cursor.ofText (s : String) : Cursor := ⟨0, bytes s⟩

/-- A cursor behind `n` more bytes. -/
def Cursor.advance (c : Cursor) (n : Nat) : Cursor := ⟨c.offset + n, c.rest.drop n⟩

/-- A cursor behind the spaces ahead. -/
def Cursor.skipSpaces (c : Cursor) : Cursor :=
  c.advance (c.rest.takeWhile (· == space)).length

/-- Reads a type and the `=` behind it. The type is trimmed of all white space. -/
def Cursor.attributeType (c : Cursor) : Except Error (String × Cursor) :=
  let c := c.skipSpaces
  let run := c.rest.takeWhile fun b => b != equals && !isSeparator b
  match c.rest.drop run.length with
  | b :: rest =>
    if b == equals then
      let type := trim (decodeLossy run)
      if type.isEmpty then .error (.emptyAttributeType c.offset)
      else .ok (type, ⟨c.offset + run.length + 1, rest⟩)
    else .error (.missingEquals c.offset)
  | [] => .error (.missingEquals c.offset)

/-- One byte of a value, and whether an escape wrote it. -/
structure ValueByte where
  byte : UInt8
  escaped : Bool
  deriving DecidableEq, Repr

/-- Reads raw bytes and escapes up to a byte that `stops`, or to the end. -/
def scan (stops : UInt8 → Bool) (offset : Nat) :
    List UInt8 → Except Error (List ValueByte × Cursor)
  | [] => .ok ([], ⟨offset, []⟩)
  | b :: rest =>
    if stops b then .ok ([], ⟨offset, b :: rest⟩)
    else if b == backslash then
      match rest with
      | [] => .error (.invalidEscape offset)
      | d :: rest =>
        match hexValue? d with
        | none => (scan stops (offset + 2) rest).map fun r => (⟨d, true⟩ :: r.1, r.2)
        | some high =>
          match rest with
          | [] => .error (.invalidEscape offset)
          | e :: rest =>
            match hexValue? e with
            | none => .error (.invalidEscape offset)
            | some low =>
              (scan stops (offset + 3) rest).map fun r => (⟨high <<< 4 ||| low, true⟩ :: r.1, r.2)
    else (scan stops (offset + 1) rest).map fun r => (⟨b, false⟩ :: r.1, r.2)

/-- Value bytes without the unescaped spaces at their end. -/
def dropTrailingSpaces (vs : List ValueByte) : List ValueByte :=
  (vs.reverse.dropWhile fun v => v.byte == space && !v.escaped).reverse

/-- The text of value bytes. -/
def valueText (vs : List ValueByte) : Except Error String :=
  match decode? (vs.map (·.byte)) with
  | some s => .ok s
  | none => .error .invalidUtf8

/-- Reads a run that ends before a separator. Its trailing unescaped spaces do not count. -/
def Cursor.plainValue (c : Cursor) : Except Error (String × Cursor) := do
  let (vs, c) ← scan isSeparator c.offset c.rest
  return (← valueText (dropTrailingSpaces vs), c)

/-- Reads a run up to the closing quote, and the spaces behind that. `start` is the offset of the
opening quote. -/
def Cursor.quotedValue (start : Nat) (c : Cursor) : Except Error (String × Cursor) := do
  let (vs, c) ← scan (· == quote) c.offset c.rest
  match c.rest with
  | [] => .error (.unterminatedQuote start)
  | _ :: rest => return (← valueText vs, (Cursor.mk (c.offset + 1) rest).skipSpaces)

/-- Reads a value, quoted if its first byte is a quote. -/
def Cursor.value (c : Cursor) : Except Error (String × Cursor) :=
  let c := c.skipSpaces
  match c.rest with
  | b :: rest =>
    if b == quote then Cursor.quotedValue c.offset ⟨c.offset + 1, rest⟩ else c.plainValue
  | [] => c.plainValue

/-- Reads one pair. -/
def Cursor.pair (c : Cursor) : Except Error (Pair × Cursor) := do
  let (type, c) ← c.attributeType
  let (value, c) ← c.value
  return (⟨type, value⟩, c)

/-! ### Every pair takes at least one byte -/

theorem Cursor.advance_length_le (c : Cursor) (n : Nat) :
    (c.advance n).rest.length ≤ c.rest.length := by
  simp [Cursor.advance]

theorem Cursor.skipSpaces_length_le (c : Cursor) : c.skipSpaces.rest.length ≤ c.rest.length :=
  c.advance_length_le _

theorem Cursor.attributeType_length_lt {c d : Cursor} {type : String}
    (h : c.attributeType = .ok (type, d)) : d.rest.length < c.rest.length := by
  unfold Cursor.attributeType at h
  have hs := c.skipSpaces_length_le
  simp only at h
  split at h
  · rename_i b rest heq
    have hlen := congrArg List.length heq
    simp only [List.length_drop, List.length_cons] at hlen
    split at h
    · split at h
      · simp at h
      · simp only [Except.ok.injEq, Prod.mk.injEq] at h
        simp only [← h.2]
        omega
    · simp at h
  · simp at h

theorem scan_length_le {stops : UInt8 → Bool} {offset : Nat} {bs : List UInt8}
    {vs : List ValueByte} {d : Cursor} (h : scan stops offset bs = .ok (vs, d)) :
    d.rest.length ≤ bs.length := by
  fun_induction scan stops offset bs generalizing vs d with
  | case1 => cases h; simp
  | case2 => cases h; simp
  | case3 => cases h
  | case4 offset b _ _ e rest _ ih =>
    cases hr : scan stops (offset + 2) rest with
    | error => simp [hr, Except.map] at h
    | ok r =>
      simp only [hr, Except.map, Except.ok.injEq, Prod.mk.injEq] at h
      have := @ih r.1 r.2 hr
      simp only [← h.2, List.length_cons]
      omega
  | case5 => cases h
  | case6 => cases h
  | case7 offset b _ _ e _ _ f rest _ _ ih =>
    cases hr : scan stops (offset + 3) rest with
    | error => simp [hr, Except.map] at h
    | ok r =>
      simp only [hr, Except.map, Except.ok.injEq, Prod.mk.injEq] at h
      have := @ih r.1 r.2 hr
      simp only [← h.2, List.length_cons]
      omega
  | case8 offset b rest _ _ ih =>
    cases hr : scan stops (offset + 1) rest with
    | error => simp [hr, Except.map] at h
    | ok r =>
      simp only [hr, Except.map, Except.ok.injEq, Prod.mk.injEq] at h
      have := @ih r.1 r.2 hr
      simp only [← h.2, List.length_cons]
      omega

theorem Cursor.plainValue_length_le {c d : Cursor} {value : String}
    (h : c.plainValue = .ok (value, d)) : d.rest.length ≤ c.rest.length := by
  unfold Cursor.plainValue at h
  cases hs : scan isSeparator c.offset c.rest with
  | error => simp [hs, bind, Except.bind] at h
  | ok r =>
    have := @scan_length_le _ _ _ r.1 r.2 hs
    cases ht : valueText (dropTrailingSpaces r.1) with
    | error => simp [hs, ht, bind, Except.bind] at h
    | ok s =>
      simp only [hs, ht, bind, Except.bind, pure, Except.pure, Except.ok.injEq,
        Prod.mk.injEq] at h
      rw [← h.2]
      exact this

theorem Cursor.quotedValue_length_le {start : Nat} {c d : Cursor} {value : String}
    (h : c.quotedValue start = .ok (value, d)) : d.rest.length ≤ c.rest.length := by
  unfold Cursor.quotedValue at h
  cases hs : scan (· == quote) c.offset c.rest with
  | error => simp [hs, bind, Except.bind] at h
  | ok r =>
    have hle := @scan_length_le _ _ _ r.1 r.2 hs
    obtain ⟨vs, e⟩ := r
    simp only [hs, bind, Except.bind] at h
    split at h
    · simp at h
    · rename_i b rest heq
      cases ht : valueText vs with
      | error => simp [ht] at h
      | ok s =>
        simp only [ht, pure, Except.pure, Except.ok.injEq, Prod.mk.injEq] at h
        have hk := (Cursor.mk (e.offset + 1) rest).skipSpaces_length_le
        simp only [heq, List.length_cons] at hle
        rw [← h.2]
        simp only at hk
        omega

theorem Cursor.value_length_le {c d : Cursor} {value : String}
    (h : c.value = .ok (value, d)) : d.rest.length ≤ c.rest.length := by
  unfold Cursor.value at h
  have hs := c.skipSpaces_length_le
  simp only at h
  split at h
  · rename_i b rest heq
    split at h
    · have := Cursor.quotedValue_length_le h
      have hlen := congrArg List.length heq
      simp only [List.length_cons] at hlen
      simp only at this
      omega
    · exact Nat.le_trans (Cursor.plainValue_length_le h) hs
  · exact Nat.le_trans (Cursor.plainValue_length_le h) hs

theorem Cursor.pair_length_lt {c d : Cursor} {p : Pair} (h : c.pair = .ok (p, d)) :
    d.rest.length < c.rest.length := by
  unfold Cursor.pair at h
  cases ht : c.attributeType with
  | error => simp [ht, bind, Except.bind] at h
  | ok t =>
    have hlt := @Cursor.attributeType_length_lt c t.2 t.1 ht
    cases hv : t.2.value with
    | error => simp [ht, hv, bind, Except.bind] at h
    | ok v =>
      have hle := @Cursor.value_length_le t.2 v.2 v.1 hv
      simp only [ht, hv, bind, Except.bind, pure, Except.pure, Except.ok.injEq,
        Prod.mk.injEq] at h
      rw [← h.2]
      omega

/-! ### Whole names -/

/-- Puts a pair in front of the first relative name. -/
def merge (p : Pair) : List RelativeName → List RelativeName
  | [] => [[p]]
  | name :: names => (p :: name) :: names

/-- Reads pairs and the separators between them up to the end. -/
def Cursor.names (c : Cursor) : Except Error (List RelativeName) :=
  match _h : c.pair with
  | .error e => .error e
  | .ok (p, d) =>
    match hd : d.rest with
    | [] => .ok [[p]]
    | b :: rest =>
      if isSeparator b then
        (Cursor.names ⟨d.offset + 1, rest⟩).map fun names =>
          if b == plus then merge p names else [p] :: names
      else .error (.unexpectedCharacter d.offset)
termination_by c.rest.length
decreasing_by
  have := Cursor.pair_length_lt _h
  simp only [hd, List.length_cons] at this
  omega

/-- The relative names of a text, most specific first, with all escapes resolved. A text of white
space has none. -/
def parse (s : String) : Except Error (List RelativeName) :=
  if isBlankText s then .ok [] else (Cursor.ofText s).names

/-! ### Common names -/

/-- Whether a type is `cn` in any case of its letters, or the object identifier of that type. -/
def isCommonName (type : String) : Bool :=
  type.toList.map Char.toLower == ['c', 'n'] || type == "2.5.4.3"

/-- Value of the first common name among relative names. -/
def commonName? (names : List RelativeName) : Option String :=
  (names.flatten.find? fun p => isCommonName p.attributeType).map (·.value)

/-- Value of the first common name of a text, if it has one. -/
def firstCommonName (s : String) : Except Error (Option String) := (parse s).map commonName?

end RoleLookup.DistinguishedName
