import RoleLookup.Json.Double
import RoleLookup.Text.Digits

/-!
# JSON values

* `Value`, a JSON text as data; the members of an object keep their order;
* `Value.compact`, its text without blanks;
* `Value.pretty`, its text with one element or member a line, indented by two blanks;
* `Value.sorted`, the value with the members of every object in ascending order, the last of
  several members of one name.
-/

namespace RoleLookup.Json

/-- A JSON value. -/
inductive Value
  | null
  | bool (b : Bool)
  | integer (n : Int)
  | double (d : Double)
  | text (s : String)
  | array (xs : List Value)
  | object (members : List (String × Value))
  deriving Repr, Inhabited

/-! ### Texts -/

/-- A character as it stands in a JSON string. -/
def escapedChar (c : Char) : String :=
  if c == '"' then "\\\""
  else if c == '\\' then "\\\\"
  else if c == '\x08' then "\\b"
  else if c == '\t' then "\\t"
  else if c == '\n' then "\\n"
  else if c == '\x0c' then "\\f"
  else if c == '\r' then "\\r"
  else if c.toNat < 0x20 then "\\u00" ++ Text.twoHex c.toNat
  else c.toString

/-- A text as a JSON string. -/
def string (s : String) : String := "\"" ++ String.join (s.toList.map escapedChar) ++ "\""

namespace Value

mutual

/-- Text of a value without blanks. -/
def compact : Value → String
  | .null => "null"
  | .bool b => if b then "true" else "false"
  | .integer n => toString n
  | .double d => d.text
  | .text s => string s
  | .array xs => "[" ++ ",".intercalate (compactElements xs) ++ "]"
  | .object ms => "\x7b" ++ ",".intercalate (compactMembers ms) ++ "\x7d"

/-- Texts of the elements of an array. -/
def compactElements : List Value → List String
  | [] => []
  | x :: xs => x.compact :: compactElements xs

/-- Texts of the members of an object. -/
def compactMembers : List (String × Value) → List String
  | [] => []
  | (k, x) :: ms => (string k ++ ":" ++ x.compact) :: compactMembers ms

end

/-- A new line and `n` steps of indentation. -/
def newline (n : Nat) : String := "\n" ++ String.ofList (List.replicate (2 * n) ' ')

mutual

/-- Text of a value inside `depth` others, one element or member a line. -/
def prettyAt (depth : Nat) : Value → String
  | .null => "null"
  | .bool b => if b then "true" else "false"
  | .integer n => toString n
  | .double d => d.text
  | .text s => string s
  | .array [] => "[]"
  | .array (x :: xs) =>
    "[" ++ ",".intercalate (prettyElements (depth + 1) (x :: xs)) ++ newline depth ++ "]"
  | .object [] => "\x7b\x7d"
  | .object (m :: ms) =>
    "\x7b" ++ ",".intercalate (prettyMembers (depth + 1) (m :: ms)) ++ newline depth ++ "\x7d"

/-- Texts of the elements of an array, each on a line of its own. -/
def prettyElements (depth : Nat) : List Value → List String
  | [] => []
  | x :: xs => (newline depth ++ x.prettyAt depth) :: prettyElements depth xs

/-- Texts of the members of an object, each on a line of its own. -/
def prettyMembers (depth : Nat) : List (String × Value) → List String
  | [] => []
  | (k, x) :: ms =>
    (newline depth ++ string k ++ ": " ++ x.prettyAt depth) :: prettyMembers depth ms

end

/-- Text of a value, one element or member a line. -/
def pretty (v : Value) : String := v.prettyAt 0

/-! ### Sorted members -/

/-- Members in ascending order of their names with one more put in; it takes the place of one of
its name. -/
def insertMember (k : String) (v : Value) : List (String × Value) → List (String × Value)
  | [] => [(k, v)]
  | (l, w) :: ms =>
    if k < l then (k, v) :: (l, w) :: ms
    else if k = l then (k, v) :: ms
    else (l, w) :: insertMember k v ms

mutual

/-- The value with the members of every object in ascending order. -/
def sorted : Value → Value
  | .array xs => .array (sortedElements xs)
  | .object ms => .object (sortedMembers [] ms)
  | v => v

/-- The elements of an array, each with its members in ascending order. -/
def sortedElements : List Value → List Value
  | [] => []
  | x :: xs => x.sorted :: sortedElements xs

/-- Members put in order behind those that are in order. -/
def sortedMembers (done : List (String × Value)) : List (String × Value) → List (String × Value)
  | [] => done
  | (k, x) :: ms => sortedMembers (insertMember k x.sorted done) ms

end

/-! ### Access -/

/-- The member of an object. Of several members of one name the last counts. -/
def get? (v : Value) (k : String) : Option Value :=
  match v with
  | .object ms => (ms.reverse.find? fun m => m.1 == k).map (·.2)
  | _ => none

end Value

end RoleLookup.Json
