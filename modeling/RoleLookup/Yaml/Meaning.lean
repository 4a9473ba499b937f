import RoleLookup.Json.Double
import RoleLookup.Text.Digits
import RoleLookup.Text.Quoted

/-!
# What a scalar stands for

A scalar without quotes stands for nothing, a truth value or a number if it is written like one,
and for its text otherwise.

* `isNull`, `truth?`, `unsigned?`, `negative?`, `real?`, the readers of each kind;
* `Meaning.ofPlain`, which tries them in this order;
* `Meaning.description`, in words.

Digits behind a zero make a text, so that codes such as `007` keep their zeros.
-/

namespace RoleLookup.Yaml

/-- A number with a fraction, or what lies outside all numbers. -/
inductive Real
  | finite (d : Json.Double)
  | infinite (negative : Bool)
  | notANumber
  deriving DecidableEq, Repr

/-- What a scalar stands for. -/
inductive Meaning
  | null
  | truth (b : Bool)
  /-- An integer of 64 bits. -/
  | integer (n : Int)
  /-- An integer that needs 128 bits. -/
  | wide (n : Int)
  | real (x : Real)
  | text (s : String)
  deriving DecidableEq, Repr

/-! ### Nothing and truth values -/

/-- Whether a text is a way to write nothing. -/
def isNull (s : String) : Bool := s == "null" || s == "Null" || s == "NULL" || s == "~"

/-- A truth value. -/
def truth? (s : String) : Option Bool :=
  if s == "true" || s == "True" || s == "TRUE" then some true
  else if s == "false" || s == "False" || s == "FALSE" then some false
  else none

/-! ### Integers -/

/-- A number in digits of a base. -/
def digitsIn? (base : Nat) (cs : List Char) : Option Nat :=
  if !cs.isEmpty && cs.all fun c => (Text.hexDigit? c).any (· < base) then
    some (Text.numberIn base cs)
  else none

/-- Whether digits follow a zero. -/
def isPadded (cs : List Char) : Bool :=
  let ds := if cs.head? == some '-' || cs.head? == some '+' then cs.drop 1 else cs
  1 < ds.length && ds.head? == some '0' && ds.all Char.isDigit

/-- A number in digits, of another base than ten if they say so. -/
def numeral? : List Char → Option Nat
  | '0' :: 'x' :: ds => digitsIn? 16 ds
  | '0' :: 'o' :: ds => digitsIn? 8 ds
  | '0' :: 'b' :: ds => digitsIn? 2 ds
  | ds => digitsIn? 10 ds

/-- An integer without a minus sign. -/
def unsigned? (cs : List Char) : Option Nat :=
  if isPadded cs then none else numeral? (if cs.head? == some '+' then cs.drop 1 else cs)

/-- An integer with a minus sign. -/
def negative? (cs : List Char) : Option Int :=
  if isPadded cs then none
  else
    match cs with
    | '-' :: ds => (numeral? ds).map fun n => -(n : Int)
    | _ => none

/-- An integer. -/
def integer? (cs : List Char) : Option Meaning :=
  match unsigned? cs, negative? cs with
  | some n, _ =>
    if n < UInt64.size then some (.integer n)
    else if n < Nat.pow 2 128 then some (.wide n) else none
  | none, some n =>
    if Int64.minValue.toInt ≤ n then some (.integer n)
    else if -(Nat.pow 2 127 : Int) ≤ n then some (.wide n) else none
  | none, none => none

/-! ### Numbers with a fraction -/

/-- Longest distance of the decimal point from the digits at which a number can be neither too
great nor zero. -/
def pointLimit : Int := 400

/-- The number `digits * 10 ^ exponent`, if it is not too great. -/
def ofDecimal? (negative : Bool) (digits : Nat) (exponent : Int) : Option Json.Double :=
  let point : Int := (Nat.toDigits 10 digits).length + exponent
  if digits = 0 ∨ point < -pointLimit then Json.Double.ofRatio negative 0 1
  else if pointLimit < point then none
  else Json.Double.ofRatio negative (digits * Nat.pow 10 exponent.toNat)
    (Nat.pow 10 (-exponent).toNat)

/-- An exponent: a sign if there is one, and digits. -/
def exponent? (cs : List Char) : Option Int :=
  match cs with
  | '-' :: ds => (digitsIn? 10 ds).map fun n => -(n : Int)
  | '+' :: ds => (digitsIn? 10 ds).map fun n => (n : Int)
  | ds => (digitsIn? 10 ds).map fun n => (n : Int)

/-- A number in decimal digits, with a point and an exponent if there are any. -/
def decimal? (cs : List Char) : Option Json.Double := do
  let negative := cs.head? == some '-'
  let cs := if negative || cs.head? == some '+' then cs.drop 1 else cs
  let whole := cs.takeWhile Char.isDigit
  let cs := cs.drop whole.length
  let fraction := if cs.head? == some '.' then (cs.drop 1).takeWhile Char.isDigit else []
  let cs := if cs.head? == some '.' then cs.drop (1 + fraction.length) else cs
  if whole.isEmpty && fraction.isEmpty then failure
  let exponent ←
    match cs with
    | [] => some 0
    | e :: rest => if e == 'e' || e == 'E' then exponent? rest else none
  ofDecimal? negative (Text.decimal (whole ++ fraction)) (exponent - fraction.length)

/-- A number with a fraction. -/
def real? (s : String) : Option Real :=
  let cs := s.toList
  let bare := String.ofList (if cs.head? == some '+' then cs.drop 1 else cs)
  if bare == ".inf" || bare == ".Inf" || bare == ".INF" then some (.infinite false)
  else if s == "-.inf" || s == "-.Inf" || s == "-.INF" then some (.infinite true)
  else if s == ".nan" || s == ".NaN" || s == ".NAN" then some .notANumber
  else (decimal? cs).map .finite

/-! ### All together -/

/-- What a scalar without quotes stands for. -/
def Meaning.ofPlain (s : String) : Meaning :=
  let cs := s.toList
  if s.isEmpty || isNull s then .null
  else
    match truth? s, integer? cs, real? s with
    | some b, _, _ => .truth b
    | none, some n, _ => n
    | none, none, some x => if isPadded cs then .text s else .real x
    | none, none, none => .text s

/-- Text of a number. -/
def Real.text : Real → String
  | .finite d => d.positionalText
  | .infinite negative => if negative then "-inf" else "inf"
  | .notANumber => "NaN"

/-- A meaning in words. -/
def Meaning.description : Meaning → String
  | .null => "unit value"
  | .truth b => "boolean \x60" ++ toString b ++ "\x60"
  | .integer n => "integer \x60" ++ toString n ++ "\x60"
  | .wide n => "integer \x60" ++ toString n ++ "\x60 as " ++ (if n < 0 then "i128" else "u128")
  | .real x => "floating point \x60" ++ x.text ++ "\x60"
  | .text s => "string " ++ Text.quoted s

end RoleLookup.Yaml
