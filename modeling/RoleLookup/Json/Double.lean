/-!
# Double precision numbers

A finite binary64 number is a sign, a mantissa and a power of two. All arithmetic here is exact
arithmetic on natural numbers.

* `Double.ofRatio`, the nearest number of a quotient, a half going to the even neighbour;
* `Double.ofDecimal`, the number that a decimal numeral stands for: its leading digits are rounded
  to a number first, then multiplied or divided by a power of ten and rounded again;
* `Double.digits`, the fewest decimal digits that read back as the same number;
* `Double.text`, positional from `1e-05` up to `1e+16`, scientific outside;
* `Double.positionalText`, positional always.
-/

namespace RoleLookup.Json

/-- The number `± mantissa * 2 ^ exponent`. -/
structure Double where
  negative : Bool
  mantissa : Nat
  exponent : Int
  deriving DecidableEq, Repr

namespace Double

/-- Numerator and denominator of the magnitude. -/
def ratio (d : Double) : Nat × Nat :=
  (d.mantissa * Nat.pow 2 d.exponent.toNat, Nat.pow 2 (-d.exponent).toNat)

/-- A quotient rounded to a whole number, a half to the even neighbour. -/
def roundHalfEven (num den : Nat) : Nat :=
  let q := num / den
  let r := 2 * (num % den)
  if r < den then q else if den < r then q + 1 else q + q % 2

/-- Least exponent of a number. -/
def leastExponent : Int := -1074

/-- A quotient over a power of two. -/
def overPower (num den : Nat) (e : Int) : Nat × Nat :=
  (num * Nat.pow 2 (-e).toNat, den * Nat.pow 2 e.toNat)

/-- The exponent at which a positive quotient has a mantissa of 53 bits, if that is allowed. -/
def exponentOf (num den : Nat) : Int :=
  let guess : Int := num.log2 - den.log2 - 52
  let scaled := overPower num den guess
  max leastExponent (if scaled.1 / scaled.2 < Nat.pow 2 52 then guess - 1 else guess)

/-- The number nearest to a quotient; `none` beyond the greatest one. -/
def ofRatio (negative : Bool) (num den : Nat) : Option Double :=
  if num = 0 then some ⟨negative, 0, leastExponent⟩
  else
    let e := exponentOf num den
    let scaled := overPower num den e
    let m := roundHalfEven scaled.1 scaled.2
    let d : Double := if m = Nat.pow 2 53 then ⟨negative, Nat.pow 2 52, e + 1⟩ else ⟨negative, m, e⟩
    if 971 < d.exponent then none else some d

/-- `d * 10 ^ exponent` for an exponent up to 308, rounded; the power of ten is rounded too. -/
def timesPowerOfTen (d : Double) (exponent : Int) : Option Double := do
  let power ← ofRatio false (Nat.pow 10 exponent.natAbs) 1
  let (n, m) := d.ratio
  let (p, q) := power.ratio
  if 0 ≤ exponent then ofRatio d.negative (n * p) (m * q) else ofRatio d.negative (n * q) (m * p)

/-- The number that the numeral `significand * 10 ^ exponent` stands for; `none` if it is too
great. -/
def ofDecimal (negative : Bool) (significand : Nat) (exponent : Int) : Option Double := do
  let d ← ofRatio negative significand 1
  if d.mantissa = 0 then return d
  if 308 < exponent then none
  else if -308 ≤ exponent then d.timesPowerOfTen exponent
  else
    let d ← d.timesPowerOfTen (-308)
    if exponent + 308 < -308 then return ⟨negative, 0, leastExponent⟩
    d.timesPowerOfTen (exponent + 308)

/-! ### Shortest digits -/

/-- Where the decimal point of a positive quotient below one stands: minus the number of zeros
behind it. -/
def pointBelowOne (num den : Nat) : Nat → Int
  | 0 => 0
  | fuel + 1 => if den ≤ num * 10 then 0 else pointBelowOne (num * 10) den fuel - 1

/-- Number of digits before the decimal point of a positive quotient. -/
def pointOf (num den : Nat) : Int :=
  if den ≤ num then (Nat.toDigits 10 (num / den)).length else pointBelowOne num den 400

/-- Whether the decimal `c * 10 ^ p` reads back as the positive number `d`. Everything is scaled
by four, so that the ends of the interval that rounds to `d` are whole. -/
def readsBack (d : Double) (c : Nat) (p : Int) : Bool :=
  let down := if d.mantissa = Nat.pow 2 52 && leastExponent < d.exponent then 1 else 2
  let unit := overPower 1 1 (-d.exponent)
  let low := (4 * d.mantissa - down) * unit.1
  let high := (4 * d.mantissa + 2) * unit.1
  let value := 4 * c * Nat.pow 10 p.toNat * unit.2
  let power := Nat.pow 10 (-p).toNat
  if d.mantissa % 2 = 0 then low * power ≤ value && value ≤ high * power
  else low * power < value && value < high * power

/-- The digits on the grid `10 ^ p` that read back and are nearest to the number. -/
def onGrid (d : Double) (p : Int) : Option Nat :=
  let (n, m) := d.ratio
  let num := n * Nat.pow 10 (-p).toNat
  let den := m * Nat.pow 10 p.toNat
  let c := num / den
  let near := roundHalfEven num den
  let far := if near = c then c + 1 else c
  if readsBack d near p then some near else if readsBack d far p then some far else none

/-- The first grid, from coarse to fine, that has digits. -/
def firstGrid (d : Double) (point : Int) (k : Nat) : Nat → Nat × Int
  | 0 => ((onGrid d (point - k)).getD 0, point - k)
  | fuel + 1 =>
    match onGrid d (point - k) with
    | some c => (c, point - k)
    | none => firstGrid d point (k + 1) fuel

/-- A number without the zeros at its end, and the exponent raised by their count. -/
def dropZeros (c : Nat) (p : Int) : Nat → Nat × Int
  | 0 => (c, p)
  | fuel + 1 => if c ≠ 0 ∧ c % 10 = 0 then dropZeros (c / 10) (p + 1) fuel else (c, p)

/-- The fewest digits that read back as the number, and the power of ten of the last one. -/
def digits (d : Double) : Nat × Int :=
  let (n, m) := d.ratio
  let (c, p) := firstGrid d (pointOf n m) 1 17
  dropZeros c p 20

/-- Text of an exponent: a sign and at least two digits. -/
def exponentText (e : Int) : String :=
  (if e < 0 then "-" else "+") ++ (if e.natAbs < 10 then "0" else "") ++ toString e.natAbs

/-- Text of a number. -/
def text (d : Double) : String :=
  let sign := if d.negative then "-" else ""
  if d.mantissa = 0 then sign ++ "0.0"
  else
    let (c, p) := d.digits
    let ds := Nat.toDigits 10 c
    let point : Int := ds.length + p
    let zeros (n : Int) := List.replicate n.toNat '0'
    sign ++ if 0 ≤ p ∧ point ≤ 16 then String.ofList (ds ++ zeros p) ++ ".0"
    else if 0 < point ∧ point ≤ 16 then
      String.ofList (ds.take point.toNat) ++ "." ++ String.ofList (ds.drop point.toNat)
    else if -5 < point ∧ point ≤ 0 then "0." ++ String.ofList (zeros (-point) ++ ds)
    else
      String.ofList (ds.take 1) ++ (if ds.length = 1 then "" else ".") ++
        String.ofList (ds.drop 1) ++ "e" ++ exponentText (point - 1)

/-- Text of a number without an exponent. -/
def positionalText (d : Double) : String :=
  let sign := if d.negative then "-" else ""
  if d.mantissa = 0 then sign ++ "0.0"
  else
    let (c, p) := d.digits
    let ds := Nat.toDigits 10 c
    let point : Int := ds.length + p
    let zeros (n : Int) := List.replicate n.toNat '0'
    sign ++ if 0 ≤ p then String.ofList (ds ++ zeros p) ++ ".0"
    else if 0 < point then
      String.ofList (ds.take point.toNat) ++ "." ++ String.ofList (ds.drop point.toNat)
    else "0." ++ String.ofList (zeros (-point) ++ ds)

end Double

end RoleLookup.Json
