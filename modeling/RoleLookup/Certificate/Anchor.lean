import RoleLookup.Text.Digits

/-!
# Trust anchors

Which byte sequences are certificates that can be trusted as authorities: a certificate of version
three, or one of version one, in distinguished encoding. Names, keys and dates inside are not
looked at.

* `Element`, one encoded element;
* `read`, the first element of a sequence and the bytes behind it;
* `isAnchor`, whether bytes are a usable certificate.
-/

namespace RoleLookup.Certificate

/-- An encoded element: a tag and the bytes of the value. -/
structure Element where
  tag : UInt8
  value : List UInt8
  deriving DecidableEq, Repr

/-- Tag of a truth value. -/
def tagBoolean : UInt8 := 0x01
/-- Tag of a number. -/
def tagInteger : UInt8 := 0x02
/-- Tag of a sequence of bits. -/
def tagBits : UInt8 := 0x03
/-- Tag of a sequence of bytes. -/
def tagBytes : UInt8 := 0x04
/-- Tag of an object identifier. -/
def tagIdentifier : UInt8 := 0x06
/-- Tag of a sequence of elements. -/
def tagSequence : UInt8 := 0x30
/-- Tag of the version. -/
def tagVersion : UInt8 := 0xa0
/-- Tag of the extensions. -/
def tagExtensions : UInt8 := 0xa3

/-- Bytes of a length that is not short, and the least length that may be written so. -/
def lengthBytes? (b : UInt8) : Option (Nat × Nat) :=
  if b == 0x81 then some (1, 0x80)
  else if b == 0x82 then some (2, 0x100)
  else if b == 0x83 then some (3, 0x10000)
  else if b == 0x84 then some (4, 0x1000000)
  else none

/-- A length in its shortest form, and the bytes behind it. -/
def readLength : List UInt8 → Option (Nat × List UInt8)
  | [] => none
  | b :: rest =>
    if b < 0x80 then some (b.toNat, rest)
    else do
      let (n, least) ← lengthBytes? b
      if rest.length < n then none
      let length := (rest.take n).foldl (fun k c => k * 256 + c.toNat) 0
      if length < least then none else some (length, rest.drop n)

/-- Greatest length of an element, plus one. -/
def lengthLimit : Nat := 0xffff

/-- The first element and the bytes behind it. -/
def read : List UInt8 → Option (Element × List UInt8)
  | [] => none
  | tag :: rest => do
    if tag.toNat % 32 = 31 then none
    let (n, rest) ← readLength rest
    if lengthLimit ≤ n || rest.length < n then none
    else some (⟨tag, rest.take n⟩, rest.drop n)

/-- The value of the first element, if it has the tag, and the bytes behind it. -/
def expect (tag : UInt8) (bs : List UInt8) : Option (List UInt8 × List UInt8) := do
  let (e, rest) ← read bs
  if e.tag == tag then some (e.value, rest) else none

/-- The value of the only element, if it has the tag. -/
def expectOnly (tag : UInt8) (bs : List UInt8) : Option (List UInt8) := do
  let (value, rest) ← expect tag bs
  if rest.isEmpty then some value else none

/-- All elements. -/
def readAll : Nat → List UInt8 → Option (List Element)
  | _, [] => some []
  | 0, _ => none
  | fuel + 1, bs => do
    let (e, rest) ← read bs
    return e :: (← readAll fuel rest)

/-- An extension: its identifier, whether it must be understood, its value. -/
structure Extension where
  identifier : List UInt8
  critical : Bool
  value : List UInt8

/-- Reads an extension. -/
def Extension.ofBytes? (bs : List UInt8) : Option Extension := do
  let (identifier, rest) ← expect tagIdentifier bs
  let (critical, rest) ←
    match rest with
    | tag :: _ =>
      if tag == tagBoolean then
        let (value, rest) ← expect tagBoolean rest
        if value == [0xff] then some (true, rest)
        else if value == [0x00] then some (false, rest)
        else none
      else some (false, rest)
    | [] => none
  let value ← expectOnly tagBytes rest
  return ⟨identifier, critical, value⟩

/-- Number of a standard extension that is understood: key usage, alternative names, basic
constraints, name constraints, extended key usage. -/
def Extension.known? (e : Extension) : Option UInt8 :=
  match e.identifier with
  | [0x55, 0x1d, n] =>
    if n == 15 || n == 17 || n == 19 || n == 30 || n == 37 then some n else none
  | _ => none

/-- Whether extensions are acceptable: each that is understood once and well formed, none else
critical. -/
def acceptable : List UInt8 → List Extension → Bool
  | _, [] => true
  | seen, e :: es =>
    match e.known? with
    | none => !e.critical && acceptable seen es
    | some n =>
      !seen.contains n && (n == 15 || (expectOnly tagSequence e.value).isSome) &&
        acceptable (n :: seen) es

/-- The signed part, the signature algorithm and the signature of a certificate. -/
def signedParts? (bs : List UInt8) : Option (List UInt8 × List UInt8 × List UInt8) := do
  let outer ← expectOnly tagSequence bs
  let (body, rest) ← expect tagSequence outer
  let (algorithm, rest) ← expect tagSequence rest
  let signature ← expectOnly tagBits rest
  return (body, algorithm, signature)

/-- Whether bytes are a certificate of version three. -/
def isVersionThree (bs : List UInt8) : Bool := Option.isSome do
  let (body, algorithm, signature) ← signedParts? bs
  if signature.head? != some 0 then none
  let (version, rest) ← expect tagVersion body
  if (← expectOnly tagInteger version) != [2] then none
  let (_, rest) ← expect tagInteger rest
  let (innerAlgorithm, rest) ← expect tagSequence rest
  if innerAlgorithm != algorithm then none
  let (_, rest) ← expect tagSequence rest
  let (_, rest) ← expect tagSequence rest
  let (_, rest) ← expect tagSequence rest
  let (_, rest) ← expect tagSequence rest
  if rest.isEmpty then some ()
  else
    let extensions ← expectOnly tagSequence (← expectOnly tagExtensions rest)
    let elements ← readAll extensions.length extensions
    if elements.isEmpty || elements.any fun e => e.tag != tagSequence then none
    let es ← elements.mapM fun e => Extension.ofBytes? e.value
    if acceptable [] es then some () else none

/-- Whether bytes are a certificate of version one. -/
def isVersionOne (bs : List UInt8) : Bool := Option.isSome do
  let (body, _, _) ← signedParts? bs
  let (_, rest) ← expect tagInteger body
  let (_, rest) ← expect tagSequence rest
  let (_, rest) ← expect tagSequence rest
  let (_, rest) ← expect tagSequence rest
  let (_, rest) ← expect tagSequence rest
  expectOnly tagSequence rest

/-- Whether bytes are a usable certificate. -/
def isAnchor (bs : List UInt8) : Bool := isVersionThree bs || isVersionOne bs

end RoleLookup.Certificate
