/-!
# UTF-8

Texts as lists of bytes.

* `bytes`, the encoding of a text;
* `decode?`, which answers with the text that a list of bytes encodes, if there is one;
* `decodeLossy`, which puts the replacement character in place of each ill-formed part.
-/

namespace RoleLookup.Text

/-- The encoding of a text. -/
def bytes (s : String) : List UInt8 := s.toUTF8.toList

/-- The text that the bytes encode. -/
def decode? (bs : List UInt8) : Option String := String.fromUTF8? bs.toByteArray

/-- How many bytes the first character of a byte sequence takes, and whether those bytes are
well formed. An ill-formed sequence is cut where no character can go on. -/
def firstLength : List UInt8 → Nat × Bool
  | [] => (0, false)
  | a :: r =>
    if a < 0x80 then (1, true)
    else if 0xc2 ≤ a && a ≤ 0xdf then tails 1 1 r
    else if a == 0xe0 then second 0xa0 0xbf 1 r
    else if a == 0xed then second 0x80 0x9f 1 r
    else if 0xe1 ≤ a && a ≤ 0xef then tails 1 2 r
    else if a == 0xf0 then second 0x90 0xbf 2 r
    else if 0xf1 ≤ a && a ≤ 0xf3 then tails 1 3 r
    else if a == 0xf4 then second 0x80 0x8f 2 r
    else (1, false)
where
  /-- The second byte lies in a narrower range, then `n` continuation bytes follow. -/
  second (lo hi : UInt8) (n : Nat) : List UInt8 → Nat × Bool
    | b :: r => if lo ≤ b && b ≤ hi then tails 2 n r else (1, false)
    | [] => (1, false)
  /-- `n` more continuation bytes after `seen` bytes. -/
  tails (seen : Nat) : Nat → List UInt8 → Nat × Bool
    | 0, _ => (seen, true)
    | n + 1, b :: r => if 0x80 ≤ b && b ≤ 0xbf then tails (seen + 1) n r else (seen, false)
    | _ + 1, [] => (seen, false)

/-- The replacement character. -/
def replacement : Char := '\ufffd'

/-- Characters of a byte sequence, each ill-formed part replaced. -/
def lossyChars : Nat → List UInt8 → List Char
  | 0, _ => []
  | _, [] => []
  | fuel + 1, bs =>
    let (n, ok) := firstLength bs
    let first := if ok then ((decode? (bs.take n)).map String.toList).getD [replacement]
      else [replacement]
    first ++ lossyChars fuel (bs.drop (max n 1))

/-- The text that the bytes encode, with the replacement character in place of each ill-formed
part. -/
def decodeLossy (bs : List UInt8) : String :=
  (decode? bs).getD (String.ofList (lossyChars bs.length bs))

theorem decodeLossy_of_decode? {bs : List UInt8} {s : String} (h : decode? bs = some s) :
    decodeLossy bs = s := by
  simp [decodeLossy, h]

end RoleLookup.Text
