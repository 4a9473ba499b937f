/-!
# Base64

The bytes of a base64 text. Padding may be left out; what stands there must be padding of the last
group of four, and the bits behind the last byte must be zero.
-/

namespace RoleLookup.Certificate.Base64

/-- Why a text is not base64. Offsets count bytes. -/
inductive Error
  | byte (value : UInt8) (offset : Nat)
  | length
  | lastSymbol (value : UInt8) (offset : Nat)
  deriving DecidableEq, Repr

/-- Wording of an error. -/
def Error.message : Error → String
  | .byte value offset => s!"Invalid byte {value.toNat}, offset {offset}."
  | .length => "Encoded text cannot have a 6-bit remainder."
  | .lastSymbol value offset => s!"Invalid last symbol {value.toNat}, offset {offset}."

/-- The byte `'='`. -/
def pad : UInt8 := 0x3d

/-- The six bits of a symbol. -/
def symbol? (b : UInt8) : Option Nat :=
  let n := b.toNat
  if 65 ≤ n ∧ n ≤ 90 then some (n - 65)
  else if 97 ≤ n ∧ n ≤ 122 then some (n - 97 + 26)
  else if 48 ≤ n ∧ n ≤ 57 then some (n - 48 + 52)
  else if n = 43 then some 62
  else if n = 47 then some 63
  else none

/-- Bytes of the six-bit groups, and the bits behind the last byte. -/
def group : List Nat → List UInt8 × Nat
  | a :: b :: c :: d :: rest =>
    let r := group rest
    (UInt8.ofNat (a * 4 + b / 16) :: UInt8.ofNat (b % 16 * 16 + c / 4) ::
      UInt8.ofNat (c % 4 * 64 + d) :: r.1, r.2)
  | [a, b, c] => ([UInt8.ofNat (a * 4 + b / 16), UInt8.ofNat (b % 16 * 16 + c / 4)], c % 4)
  | [a, b] => ([UInt8.ofNat (a * 4 + b / 16)], b % 16)
  | [a] => ([], a)
  | [] => ([], 0)

/-- Whether `n` padding bytes may follow `m` symbols. -/
def allowsPadding (m n : Nat) : Bool := n = 0 || (2 ≤ m % 4 && n ≤ 4 - m % 4)

/-- The bytes that a text encodes. -/
def decode (bs : List UInt8) : Except Error (List UInt8) :=
  let symbols := bs.takeWhile fun b => (symbol? b).isSome
  let rest := bs.drop symbols.length
  match bs.getLast? with
  | none => .ok []
  | some last =>
    if bs.length % 4 = 1 then
      if last != pad && (symbol? last).isNone then .error (.byte last (bs.length - 1))
      else .error .length
    else
      match rest with
      | b :: _ =>
        if b != pad || !rest.all (· == pad) || !allowsPadding symbols.length rest.length then
          .error (.byte b symbols.length)
        else finish symbols
      | [] => finish symbols
where
  /-- The bytes of symbols that are well placed. -/
  finish (symbols : List UInt8) : Except Error (List UInt8) :=
    let (out, left) := group (symbols.filterMap symbol?)
    if left = 0 then .ok out
    else .error (.lastSymbol (symbols.getLast?.getD 0) (symbols.length - 1))

end RoleLookup.Certificate.Base64
