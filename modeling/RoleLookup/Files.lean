/-!
# Files

What reading a file gives.

* `Files`, the answer to reading each path;
* `Tree`, a tree of directories and files, and `Tree.files`, its answers.
-/

namespace RoleLookup

/-- Contents of the file at each path, or the wording of the failure. -/
abbrev Files := String → Except String (List UInt8)

namespace Files

/-- Failure to find a file. -/
def notFound : String := "No such file or directory (os error 2)"

/-- Failure to go through a file as if it were a directory. -/
def notADirectory : String := "Not a directory (os error 20)"

/-- Failure to read a directory. -/
def isADirectory : String := "Is a directory (os error 21)"

/-- Failure to name a file of too long a name. -/
def nameTooLong : String := "File name too long (os error 36)"

/-- Failure to name a file with NUL in its path. -/
def nulInPath : String := "file name contained an unexpected NUL byte"

end Files

/-- Names from the root to a file or directory. -/
abbrev Location := List String

/-- A file with its contents, or a directory. -/
inductive Node
  | file (contents : List UInt8)
  | directory
  deriving DecidableEq, Repr

/-- The files and directories below a root. -/
structure Tree where
  nodes : List (Location × Node)

namespace Tree

/-- The node at a location. -/
def node? (t : Tree) (l : Location) : Option Node :=
  if l.isEmpty then some .directory else (t.nodes.find? fun n => n.1 == l).map (·.2)

/-- The tree with one more node. -/
def add (t : Tree) (l : Location) (n : Node) : Tree := ⟨(l, n) :: t.nodes⟩

/-- The names in a path. -/
def names (path : String) : List String := path.splitOn "/"

/-- Goes from a location along names. -/
def walk (t : Tree) (here : Location) : List String → Except String Location
  | [] => .ok here
  | name :: names =>
    match t.node? here with
    | none => .error Files.notFound
    | some (.file _) => .error Files.notADirectory
    | some .directory =>
      if 255 < name.utf8ByteSize then .error Files.nameTooLong
      else if name == "" || name == "." then t.walk here names
      else if name == ".." then t.walk here.dropLast names
      else t.walk (here ++ [name]) names

/-- The answers of a tree. Paths that do not start at the root start there all the same. -/
def files (t : Tree) : Files := fun path =>
  if path.toList.contains '\x00' then .error Files.nulInPath
  else if path.isEmpty then .error Files.notFound
  else
    match t.walk [] (names path) with
    | .error e => .error e
    | .ok l =>
      match t.node? l with
      | none => .error Files.notFound
      | some .directory => .error Files.isADirectory
      | some (.file contents) => .ok contents

end Tree

end RoleLookup
