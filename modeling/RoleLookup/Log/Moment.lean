/-!
# Moments

Points of time, and how a log line shows them.

* `Moment`, a point of time on the calendar and the clock, with its distance from Greenwich;
* `Moment.ofUnix`, the moment of a number of seconds since the start of 1970;
* `Moment.format?`, the text of a moment in a given format.

In a format, a percent sign and one or more characters stand for a part of the moment; between
them `-` asks for no padding, `_` for blanks and `0` for zeros. A format with an unknown part has
no text.
-/

namespace RoleLookup.Log

/-- A point of time. The offset from Greenwich is in seconds. -/
structure Moment where
  unix : Int
  nanosecond : Nat
  offset : Int
  year : Int
  month : Nat
  day : Nat
  hour : Nat
  minute : Nat
  second : Nat
  deriving DecidableEq, Repr

namespace Moment

/-! ### Calendar -/

/-- Year, month and day of a number of days since the start of 1970. The count goes from March to
March, so that the leap day comes last, in periods of four hundred years. -/
def civil (days : Int) : Int × Nat × Nat :=
  let shifted := days + 719468
  let period := shifted.fdiv 146097
  let ofPeriod := (shifted - period * 146097).toNat
  let yearOfPeriod :=
    (ofPeriod - ofPeriod / 1460 + ofPeriod / 36524 - ofPeriod / 146096) / 365
  let ofYear := ofPeriod - (365 * yearOfPeriod + yearOfPeriod / 4 - yearOfPeriod / 100)
  let fromMarch := (5 * ofYear + 2) / 153
  let day := ofYear - (153 * fromMarch + 2) / 5 + 1
  let month := if fromMarch < 10 then fromMarch + 3 else fromMarch - 9
  let year := (yearOfPeriod : Int) + period * 400
  (if month ≤ 2 then year + 1 else year, month, day)

/-- The moment of a number of seconds since the start of 1970. -/
def ofUnix (unix : Int) (nanosecond : Nat) (offset : Int) : Moment :=
  let here := unix + offset
  let days := here.fdiv 86400
  let ofDay := (here - days * 86400).toNat
  let (year, month, day) := civil days
  ⟨unix, nanosecond, offset, year, month, day, ofDay / 3600, ofDay / 60 % 60, ofDay % 60⟩

/-- Whether a year has a leap day. -/
def isLeap (year : Int) : Bool := (year % 4 == 0 && year % 100 != 0) || year % 400 == 0

/-- Days of the months before a month. -/
def daysBefore (year : Int) (month : Nat) : Nat :=
  let lengths := [31, if isLeap year then 29 else 28, 31, 30, 31, 30, 31, 31, 30, 31, 30, 31]
  (lengths.take (month - 1)).foldl (· + ·) 0

/-- Number of the day in its year, from one. -/
def dayOfYear (m : Moment) : Nat := daysBefore m.year m.month + m.day

/-- Number of the day in its week, from Sunday at zero. -/
def fromSunday (m : Moment) : Nat :=
  (((m.unix + m.offset).fdiv 86400 + 4) % 7).toNat

/-- Number of the day in its week, from Monday at zero. -/
def fromMonday (m : Moment) : Nat := (m.fromSunday + 6) % 7

/-- Number of weeks of a year. A year has 53 if it starts on a Thursday, or on a Wednesday and has
a leap day. -/
def weeksOf (year : Int) : Nat :=
  let before := year - 1
  let first := (before + before.fdiv 4 - before.fdiv 100 + before.fdiv 400) % 7
  if first == 3 || (first == 2 && isLeap year) then 53 else 52

/-- The year of the week and the number of the week in it. The first week is that of the first
Thursday. -/
def week (m : Moment) : Int × Nat :=
  let number := (m.dayOfYear + 9 - m.fromMonday) / 7
  if number == 0 then (m.year - 1, weeksOf (m.year - 1))
  else if weeksOf m.year < number then (m.year + 1, 1)
  else (m.year, number)

/-! ### Names -/

/-- Names of the months. -/
def monthNames : List String :=
  ["January", "February", "March", "April", "May", "June", "July", "August", "September",
    "October", "November", "December"]

/-- Names of the days of the week. -/
def dayNames : List String :=
  ["Sunday", "Monday", "Tuesday", "Wednesday", "Thursday", "Friday", "Saturday"]

/-- Name of the month. -/
def monthName (m : Moment) : String := monthNames.getD (m.month - 1) ""

/-- Name of the day of the week. -/
def dayName (m : Moment) : String := dayNames.getD m.fromSunday ""

/-- The first three letters of a name. -/
def short (name : String) : String := String.ofList (name.toList.take 3)

/-! ### Numbers -/

/-- How a number is filled up to its width. -/
inductive Padding
  | none
  | blanks
  | zeros
  deriving DecidableEq, Repr

/-- A number filled up to a width. -/
def padded (p : Padding) (width n : Nat) : String :=
  let digits := Nat.toDigits 10 n
  let fill (c : Char) := String.ofList (List.replicate (width - digits.length) c ++ digits)
  match p with
  | .none => String.ofList digits
  | .blanks => fill ' '
  | .zeros => fill '0'

/-- A number with two digits at least. -/
def two (n : Nat) : String := padded .zeros 2 n

/-- Hour on a clock of twelve. -/
def hourOfTwelve (m : Moment) : Nat := if m.hour % 12 = 0 then 12 else m.hour % 12

/-- The number that a character asks for, with its width and how it is filled. -/
def number? (m : Moment) : Char → Option (Padding × Nat × Nat)
  | 'Y' => some (.zeros, 4, m.year.toNat)
  | 'C' => some (.zeros, 2, (m.year.fdiv 100).toNat)
  | 'y' => some (.zeros, 2, (m.year % 100).toNat)
  | 'q' => some (.none, 1, (m.month + 2) / 3)
  | 'm' => some (.zeros, 2, m.month)
  | 'd' => some (.zeros, 2, m.day)
  | 'e' => some (.blanks, 2, m.day)
  | 'w' => some (.none, 1, m.fromSunday)
  | 'u' => some (.none, 1, m.fromMonday + 1)
  | 'U' => some (.zeros, 2, (m.dayOfYear + 6 - m.fromSunday) / 7)
  | 'W' => some (.zeros, 2, (m.dayOfYear + 6 - m.fromMonday) / 7)
  | 'G' => some (.zeros, 4, m.week.1.toNat)
  | 'g' => some (.zeros, 2, (m.week.1 % 100).toNat)
  | 'V' => some (.zeros, 2, m.week.2)
  | 'j' => some (.zeros, 3, m.dayOfYear)
  | 'H' => some (.zeros, 2, m.hour)
  | 'k' => some (.blanks, 2, m.hour)
  | 'I' => some (.zeros, 2, m.hourOfTwelve)
  | 'l' => some (.blanks, 2, m.hourOfTwelve)
  | 'M' => some (.zeros, 2, m.minute)
  | 'S' => some (.zeros, 2, m.second)
  | 'f' => some (.zeros, 9, m.nanosecond)
  | 's' => some (.none, 1, m.unix.toNat)
  | _ => none

/-- The first decimals of a second. -/
def decimals (m : Moment) (count : Nat) : String :=
  String.ofList ((padded .zeros 9 m.nanosecond).toList.take count)

/-- The decimals of a second behind a point: none, three, six or nine, as many as needed. -/
def shortestDecimals (m : Moment) : String :=
  if m.nanosecond = 0 then ""
  else if m.nanosecond % 1000000 = 0 then "." ++ m.decimals 3
  else if m.nanosecond % 1000 = 0 then "." ++ m.decimals 6
  else "." ++ m.decimals 9

/-- The offset: a sign, and hours, minutes and perhaps seconds with something between them. -/
def offsetText (m : Moment) (between : String) (seconds : Bool) : String :=
  let n := m.offset.natAbs
  (if m.offset < 0 then "-" else "+") ++ two (n / 3600) ++ between ++ two (n / 60 % 60) ++
    if seconds then between ++ two (n % 60) else ""

/-- The date: year, month and day. -/
def date (m : Moment) : String :=
  padded .zeros 4 m.year.toNat ++ "-" ++ two m.month ++ "-" ++ two m.day

/-- The time of day. -/
def clock (m : Moment) : String := two m.hour ++ ":" ++ two m.minute ++ ":" ++ two m.second

/-- Half of the day. -/
def half (m : Moment) : String := if m.hour < 12 then "AM" else "PM"

/-- The text that a character asks for. -/
def text? (m : Moment) : Char → Option String
  | 'b' | 'h' => some (short m.monthName)
  | 'B' => some m.monthName
  | 'a' => some (short m.dayName)
  | 'A' => some m.dayName
  | 'D' | 'x' => some (two m.month ++ "/" ++ two m.day ++ "/" ++ two (m.year % 100).toNat)
  | 'F' => some m.date
  | 'v' =>
    some (padded .blanks 2 m.day ++ "-" ++ short m.monthName ++ "-" ++
      padded .zeros 4 m.year.toNat)
  | 'P' => some m.half.toLower
  | 'p' => some m.half
  | 'R' => some (two m.hour ++ ":" ++ two m.minute)
  | 'T' | 'X' => some m.clock
  | 'r' =>
    some (two m.hourOfTwelve ++ ":" ++ two m.minute ++ ":" ++ two m.second ++ " " ++ m.half)
  | 'Z' => some (if m.offset = 0 then "UTC" else m.offsetText ":" false)
  | 'z' => some (m.offsetText "" false)
  | 'c' =>
    some (short m.dayName ++ " " ++ short m.monthName ++ " " ++ padded .blanks 2 m.day ++ " " ++
      m.clock ++ " " ++ padded .zeros 4 m.year.toNat)
  | '+' => some (m.date ++ "T" ++ m.clock ++ m.shortestDecimals ++ m.offsetText ":" false)
  | 't' => some "\t"
  | 'n' => some "\n"
  | '%' => some "%"
  | _ => none

/-! ### Formats -/

/-- The padding that a character asks for. -/
def padding? : Char → Option Padding
  | '-' => some .none
  | '_' => some .blanks
  | '0' => some .zeros
  | _ => none

/-- The part of a moment that stands behind a percent sign, and the rest of the format. -/
def part? (m : Moment) : List Char → Option (String × List Char)
  | '.' :: 'f' :: rest => some (m.shortestDecimals, rest)
  | '.' :: '3' :: 'f' :: rest => some ("." ++ m.decimals 3, rest)
  | '.' :: '6' :: 'f' :: rest => some ("." ++ m.decimals 6, rest)
  | '.' :: '9' :: 'f' :: rest => some ("." ++ m.decimals 9, rest)
  | '3' :: 'f' :: rest => some (m.decimals 3, rest)
  | '6' :: 'f' :: rest => some (m.decimals 6, rest)
  | '9' :: 'f' :: rest => some (m.decimals 9, rest)
  | ':' :: ':' :: ':' :: 'z' :: rest =>
    some (String.ofList ((m.offsetText "" false).toList.take 3), rest)
  | ':' :: ':' :: 'z' :: rest => some (m.offsetText ":" true, rest)
  | ':' :: 'z' :: rest => some (m.offsetText ":" false, rest)
  | c :: rest =>
    match padding? c, rest with
    | some padding, d :: rest => do
      let (_, width, n) ← m.number? d
      return (padded padding width n, rest)
    | _, _ =>
      match m.number? c with
      | some (padding, width, n) => some (padded padding width n, rest)
      | none => (m.text? c).map (·, rest)
  | [] => none

/-- The text of a moment in a format, whose length bounds the number of parts. -/
def formatParts? (m : Moment) : Nat → List Char → Option String
  | 0, _ => some ""
  | _, [] => some ""
  | fuel + 1, '%' :: rest => do
    let (part, rest) ← m.part? rest
    let more ← m.formatParts? fuel rest
    return part ++ more
  | fuel + 1, c :: rest => (m.formatParts? fuel rest).map (c.toString ++ ·)

/-- The text of a moment in a format. -/
def format? (m : Moment) (format : String) : Option String :=
  m.formatParts? format.length format.toList

/-- The moment in Greenwich, to the microsecond. -/
def universal (m : Moment) : String :=
  let m := ofUnix m.unix m.nanosecond 0
  m.date ++ "T" ++ m.clock ++ "." ++ m.decimals 6 ++ "Z"

end Moment

end RoleLookup.Log
