/-!
# Durations

A length of time in nanoseconds, and its text: the largest of the units second, millisecond,
microsecond and nanosecond that gives at least one, with as many decimals as needed.
-/

namespace RoleLookup

/-- A length of time. -/
structure Duration where
  nanoseconds : Nat
  deriving DecidableEq, Repr

namespace Duration

/-- A duration in milliseconds. -/
def ofMillis (n : Nat) : Duration := ⟨n * 1000000⟩

/-- The decimals of `fraction` out of `10 ^ digits`, without trailing zeros. -/
def decimals (digits fraction : Nat) : List Char :=
  let shown := Nat.toDigits 10 fraction
  let padded := List.replicate (digits - shown.length) '0' ++ shown
  (padded.reverse.dropWhile (· == '0')).reverse

/-- `n / Nat.pow 10 digits` with as many decimals as needed. -/
def scaled (n digits : Nat) : String :=
  let whole := n / Nat.pow 10 digits
  let fraction := n % Nat.pow 10 digits
  if fraction = 0 then toString whole
  else toString whole ++ "." ++ String.ofList (decimals digits fraction)

/-- Text of a duration. -/
def text (d : Duration) : String :=
  let n := d.nanoseconds
  if 1000000000 ≤ n then scaled n 9 ++ "s"
  else if 1000000 ≤ n then scaled n 6 ++ "ms"
  else if 1000 ≤ n then scaled n 3 ++ "µs"
  else toString n ++ "ns"

end Duration

end RoleLookup
