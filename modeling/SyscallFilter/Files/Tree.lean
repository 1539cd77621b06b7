import SyscallFilter.Files.Path

/-! A tree of directories and files, and the directory in it that a program works in, its base. The
    tree is a list of its nodes in the order of a walk: each directory before what it holds, names
    in dictionary order. A written path is followed part by part, from the root if it begins with a
    slash and from the base if it does not. -/

namespace SyscallFilter.Files

open SyscallFilter

/-- Why something cannot be done with a file or a path. -/
inductive FileError where
  | notFound
  | notDirectory
  | isDirectory
  | nameTooLong
  | invalid
  | exists
  /-- What else a system may report. -/
  | other (text : Bytes)
  deriving DecidableEq

/-- The wording of a file error. -/
def FileError.message : FileError → Bytes
  | .notFound => utf8 "no such file or directory"
  | .notDirectory => utf8 "not a directory"
  | .isDirectory => utf8 "is a directory"
  | .nameTooLong => utf8 "file name too long"
  | .invalid => utf8 "invalid argument"
  | .exists => utf8 "file exists"
  | .other text => text

/-- A node of a tree. -/
inductive Node where
  | directory
  | file (content : Bytes)
  deriving DecidableEq

/-- A place in a tree: the names on the way from the root. -/
abbrev Place := List Bytes

/-- The place that one more part of a path leads to; the root lies in itself. -/
def Place.next (p : Place) (part : Bytes) : Place :=
  if part = [] ∨ part = here then p else if part = above then p.dropLast else p ++ [part]

/-- The order of a walk: dictionary order on the names along the way. -/
def Place.before : Place → Place → Bool
  | _, [] => false
  | [], _ :: _ => true
  | a :: p, b :: q => a.before b || (a == b && Place.before p q)

/-- A tree. The base and the directories that it lies in, up to the root, are there even if they are
    not among the nodes. -/
structure Tree where
  nodes : List (Place × Node) := []
  /-- The directory that a program works in. -/
  base : Place := []
  deriving DecidableEq

namespace Tree

/-- Whether the base is at a place or below it. -/
def holdsBase (t : Tree) (p : Place) : Bool := p.isPrefixOf t.base

/-- The node at a place. -/
def get? (t : Tree) (p : Place) : Option Node :=
  if t.holdsBase p then some .directory else t.nodes.lookup p

/-- Puts a node into a list of nodes, in the order of a walk. -/
def insertNode (p : Place) (n : Node) : List (Place × Node) → List (Place × Node)
  | [] => [(p, n)]
  | (q, m) :: rest =>
    if q = p then (p, n) :: rest
    else if Place.before p q then (p, n) :: (q, m) :: rest
    else (q, m) :: insertNode p n rest

/-- The tree with a node at a place. -/
def insert (t : Tree) (p : Place) (n : Node) : Tree := { t with nodes := insertNode p n t.nodes }

/-- The tree without the node at a place. -/
def erase (t : Tree) (p : Place) : Tree := { t with nodes := t.nodes.filter fun e => e.1 ≠ p }

/-! ### Following paths -/

/-- The longest name in a directory. -/
def maxName : Nat := 255

/-- The length at which a path is too long. -/
def maxPath : Nat := 4096

/-- Goes down to a name in a directory, which need not be there. -/
def down (t : Tree) (p : Place) (name : Bytes) : Except FileError Place :=
  if t.get? p ≠ some .directory then .error .notDirectory
  else if maxName < name.length then .error .nameTooLong
  else .ok (p ++ [name])

/-- Goes on by one part of a path. -/
def follow (t : Tree) (p : Place) (part : Bytes) : Except FileError Place :=
  if part = [] ∨ part = here ∨ part = above then
    if t.get? p ≠ some .directory then .error .notDirectory else .ok (p.next part)
  else match t.down p part with
    | .error e => .error e
    | .ok q => if (t.get? q).isSome then .ok q else .error .notFound

/-- Goes on by the parts of a path. -/
def walk (t : Tree) (p : Place) : List Bytes → Except FileError Place
  | [] => .ok p
  | part :: rest =>
    match t.follow p part with
    | .error e => .error e
    | .ok q => t.walk q rest

/-- Checks the text of a path. -/
def checkPath (path : Bytes) : Except FileError Unit :=
  if path.contains 0 then .error .invalid
  else if path = [] then .error .notFound
  else if maxPath ≤ path.length then .error .nameTooLong
  else .ok ()

/-- The place that a path starts from. -/
def start (t : Tree) (path : Bytes) : Place := if isRooted path then [] else t.base

/-- The place that a path leads to. -/
def locate (t : Tree) (path : Bytes) : Except FileError Place :=
  match checkPath path with
  | .error e => .error e
  | .ok () => t.walk (t.start path) (parts path)

/-- The place for a file that a path names, whether there is one or not. -/
def placeFor (t : Tree) (path : Bytes) : Except FileError Place :=
  match checkPath path with
  | .error e => .error e
  | .ok () =>
    match t.walk (t.start path) (parts path).dropLast with
    | .error e => .error e
    | .ok p => t.down p ((parts path).getLastD [])

/-- The node that a path leads to. -/
def lookup (t : Tree) (path : Bytes) : Except FileError Node :=
  match t.locate path with
  | .error e => .error e
  | .ok p =>
    match t.get? p with
    | some n => .ok n
    | none => .error .notFound

end Tree

/-! ### Reading files -/

/-- What comes of reading a file that was opened. -/
structure Reading where
  content : Bytes
  /-- The failure that reading ends with behind the content. -/
  failure : Option FileError := none
  /-- The failure to close the file afterwards. -/
  closing : Option FileError := none

/-- What comes of reading a node. A directory can be opened, and the first read fails. -/
def Node.reading : Node → Reading
  | .directory => { content := [], failure := some .isDirectory }
  | .file content => { content }

/-- Opens the file that a path leads to and reads it. -/
def Tree.readFile (t : Tree) (path : Bytes) : Except FileError Reading :=
  (t.lookup path).map Node.reading

/-- The wording for something that could not be done with a path. -/
def pathMessage (action : String) (path : Bytes) (e : FileError) : Bytes :=
  utf8 action ++ utf8 " " ++ path ++ utf8 ": " ++ e.message

end SyscallFilter.Files
