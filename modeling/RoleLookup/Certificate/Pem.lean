import RoleLookup.Certificate.Base64
import RoleLookup.Text.Quoted
import RoleLookup.Text.Utf8

/-!
# PEM bundles

Sections of base64 text between marker lines. `certificates` gives the contents of the sections
labelled `CERTIFICATE`. Text outside sections does not count, and sections of other labels are
decoded but not used.
-/

namespace RoleLookup.Certificate.Pem

open Text

/-- Why a text is not a bundle. -/
inductive Error
  | illegalStart (line : List UInt8)
  | missingEnd (label : List UInt8)
  | base64 (cause : Base64.Error)
  deriving DecidableEq, Repr

/-- Wording of an error. -/
def Error.message : Error → String
  | .illegalStart line => "illegal section start: " ++ quoted (decodeLossy line)
  | .missingEnd label => "section end " ++ quoted (decodeLossy label) ++ " missing"
  | .base64 cause => cause.message

/-- Lines with their ends. A line feed and a carriage return both end a line. -/
def lines : List UInt8 → List (List UInt8)
  | [] => []
  | b :: rest =>
    if b == 0x0a || b == 0x0d then [b] :: lines rest
    else
      match lines rest with
      | l :: ls => (b :: l) :: ls
      | [] => [[b]]

/-- Whether a byte may trail a line. -/
def trails (b : UInt8) : Bool := b == 0x0a || b == 0x0d || b == 0x20

/-- A line without the bytes that trail it. -/
def trimEnd (line : List UInt8) : List UInt8 := (line.reverse.dropWhile trails).reverse

/-- The byte `'-'`. -/
def hyphen : UInt8 := 0x2d

/-- Start of a marker line that opens a section. -/
def beginMark : List UInt8 := bytes "-----BEGIN "

/-- Line that closes a section. -/
def endMark (label : List UInt8) : List UInt8 := bytes "-----END " ++ label ++ bytes "-----"

/-- Label of the certificate sections. -/
def certificateLabel : List UInt8 := bytes "CERTIFICATE"

/-- The label that an opening line gives. Exactly five hyphens end it, and spaces and line ends
among or behind the hyphens do not count. -/
def label? (line : List UInt8) : Option (List UInt8) :=
  let behind := line.reverse.takeWhile fun b => trails b || b == hyphen
  if behind.count hyphen = 5 then
    let closing := behind.reverse.dropWhile fun b => b != hyphen
    some ((line.take (line.length - closing.length)).drop beginMark.length)
  else none

/-- An open section and the text in it so far. -/
structure Section where
  label : List UInt8
  text : List UInt8

/-- Contents of the certificate sections among lines. `text` is what an unclosed section left
behind. -/
def collect (current : Option Section) :
    List (List UInt8) → Except Error (List (List UInt8))
  | [] =>
    match current with
    | none => .ok []
    | some s => .error (.missingEnd s.label)
  | line :: rest =>
    if beginMark.isPrefixOf line then
      match label? line with
      | none => .error (.illegalStart line)
      | some label => collect (some ⟨label, (current.map (·.text)).getD []⟩) rest
    else
      match current with
      | none => collect none rest
      | some s =>
        if (endMark s.label).isPrefixOf line then
          match Base64.decode s.text with
          | .error e => .error (.base64 e)
          | .ok der =>
            if s.label == certificateLabel then (collect none rest).map (der :: ·)
            else collect none rest
        else collect (some { s with text := s.text ++ trimEnd line }) rest

/-- Contents of the certificate sections of a bundle. -/
def certificates (bs : List UInt8) : Except Error (List (List UInt8)) :=
  collect none (lines bs)

end RoleLookup.Certificate.Pem
