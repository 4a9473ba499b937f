import RoleLookup.Text.Digits

/-!
# IPv6 addresses

The eight pieces of an address, read from and written to text. In text `::` stands for at least
one zero piece, and the last two pieces may be four decimal numbers.
-/

namespace RoleLookup.Url.Ipv6

open Text

/-- A decimal number below 256 without leading zeros, and the text behind it. -/
def byte? (cs : List Char) : Option (Nat × List Char) :=
  let ds := cs.takeWhile Char.isDigit
  let n := decimal ds
  if ds.isEmpty || (1 < ds.length && ds.head? == some '0') || 255 < n then none
  else some (n, cs.drop ds.length)

/-- Two pieces written as four decimal numbers that end the text. -/
def dotted? (cs : List Char) : Option (List Nat) := do
  let (a, cs) ← byte? cs
  let (b, cs) ← (dot? cs).bind byte?
  let (c, cs) ← (dot? cs).bind byte?
  let (d, cs) ← (dot? cs).bind byte?
  if cs.isEmpty then some [a * 256 + b, c * 256 + d] else none
where
  /-- The text behind a point. -/
  dot? : List Char → Option (List Char)
    | '.' :: cs => some cs
    | _ => none

/-- The pieces before and, if there is one, behind `::`. -/
structure Pieces where
  front : List Nat
  back : Option (List Nat)

namespace Pieces

/-- How many places are taken; `::` takes one. -/
def count (p : Pieces) : Nat := p.front.length + (p.back.map (·.length + 1)).getD 0

/-- One more piece at the end. -/
def push (p : Pieces) (n : Nat) : Pieces :=
  match p.back with
  | none => { p with front := p.front ++ [n] }
  | some b => { p with back := some (b ++ [n]) }

/-- All eight pieces, if there are neither too few nor too many. -/
def complete? (p : Pieces) : Option (List Nat) :=
  match p.back with
  | none => if p.front.length = 8 then some p.front else none
  | some b =>
    if p.count ≤ 8 then
      some (p.front ++ List.replicate (8 - p.front.length - b.length) 0 ++ b)
    else none

end Pieces

/-- Reads pieces up to the end of the text. -/
def pieces? : Nat → Pieces → List Char → Option Pieces
  | 0, _, _ => none
  | _ + 1, p, [] => some p
  | fuel + 1, p, c :: cs =>
    if p.count = 8 then none
    else if c == ':' then
      if p.back.isSome then none else pieces? fuel { p with back := some [] } cs
    else
      let ds := ((c :: cs).take 4).takeWhile isHexDigit
      match (c :: cs).drop ds.length with
      | [] => some (p.push (numberIn 16 ds))
      | d :: rest =>
        if d == '.' then
          if ds.isEmpty || 6 < p.count then none
          else (dotted? (c :: cs)).map fun ns => ns.foldl Pieces.push p
        else if d == ':' then
          if rest.isEmpty then none else pieces? fuel (p.push (numberIn 16 ds)) rest
        else none

/-- The pieces of an address. -/
def parse? (cs : List Char) : Option (List Nat) :=
  match cs with
  | ':' :: ':' :: rest => (pieces? (cs.length + 1) ⟨[], some []⟩ rest).bind Pieces.complete?
  | ':' :: _ => none
  | _ :: _ :: _ => (pieces? (cs.length + 1) ⟨[], none⟩ cs).bind Pieces.complete?
  | _ => none

/-! ### Writing -/

/-- Length of the run of zeros ahead. -/
def zeroRun (ns : List Nat) : Nat := (ns.takeWhile (· == 0)).length

/-- Start and length of the first longest run of zeros, if it has two pieces or more. -/
def longestZeros (ns : List Nat) : Option (Nat × Nat) :=
  let runs := (List.range ns.length).map fun i => (i, zeroRun (ns.drop i))
  let best := runs.foldl (fun b r => if b.2 < r.2 then r else b) (0, 1)
  if 2 ≤ best.2 then some best else none

/-- Pieces joined by colons. -/
def joined (ns : List Nat) : String :=
  ":".intercalate (ns.map hex)

/-- Text of an address, the first longest run of zeros written `::`. -/
def text (ns : List Nat) : String :=
  match longestZeros ns with
  | none => joined ns
  | some (i, n) => joined (ns.take i) ++ "::" ++ joined (ns.drop (i + n))

end RoleLookup.Url.Ipv6
