import RoleLookup.Text.Digits
import RoleLookup.Text.Printable

/-!
# Quoted texts

A text between double quotes. A backslash stands before a quote and a backslash, the control
characters NUL, tab, line feed and carriage return have a letter, and every other character that
is not printable is written by its code point in hexadecimal digits.
-/

namespace RoleLookup.Text

/-- A character as it stands between the quotes. -/
def quotedChar (c : Char) : String :=
  if c == '\x00' then "\\0"
  else if c == '\t' then "\\t"
  else if c == '\r' then "\\r"
  else if c == '\n' then "\\n"
  else if c == '"' then "\\\""
  else if c == '\\' then "\\\\"
  else if isPrintable c then c.toString
  else "\\u\x7b" ++ hex c.toNat ++ "\x7d"

/-- A text between quotes. -/
def quoted (s : String) : String := "\"" ++ String.join (s.toList.map quotedChar) ++ "\""

/-- Texts between quotes, in square brackets. -/
def quotedList (ss : List String) : String := "[" ++ ", ".intercalate (ss.map quoted) ++ "]"

/-- An optional text between quotes. -/
def quotedOption : Option String → String
  | none => "None"
  | some s => "Some(" ++ quoted s ++ ")"

end RoleLookup.Text
