import SyscallFilter.Bytes

/-! Written paths: parts between slashes. Where a path leads is a matter of the tree it is looked up
    in; here paths are only texts, cut and put together. -/

namespace SyscallFilter.Files

open SyscallFilter

/-- The byte between the parts of a path. -/
def slash : UInt8 := 47

/-- The part that stands for the same directory. -/
def here : Bytes := utf8 "."

/-- The part that stands for the directory above. -/
def above : Bytes := utf8 ".."

/-- Puts one more byte in front of the parts of a path. -/
def addByte (b : UInt8) (ps : List Bytes) : List Bytes :=
  if b = slash then [] :: ps
  else match ps with
    | [] => [[b]]
    | part :: more => (b :: part) :: more

/-- The parts of a path; a slash at either end gives an empty part there. -/
def parts (path : Bytes) : List Bytes := path.foldr addByte [[]]

/-- Whether a path starts at the root. -/
def isRooted (path : Bytes) : Bool := path.head? = some slash

/-- The path with the given parts. -/
def ofParts (ps : List Bytes) : Bytes := Bytes.join [slash] ps

/-- Takes one more part into a cleaned path, whose last part comes first. -/
def cleanPart (rooted : Bool) (done : List Bytes) (part : Bytes) : List Bytes :=
  if part = [] ∨ part = here then done
  else if part = above then
    match done with
    | [] => if rooted then [] else [above]
    | last :: before => if last = above then above :: done else before
  else part :: done

/-- The shortest path to the same place: no empty parts, none that stays, and none that goes up
    behind one that goes down. -/
def clean (ps : List Bytes) (rooted : Bool) : Bytes :=
  let path := ofParts (ps.foldl (cleanPart rooted) []).reverse
  if rooted then slash :: path else if path = [] then here else path

/-- The cleaned path of the directory that a path lies in. -/
def directoryOf (path : Bytes) : Bytes := clean (parts path).dropLast (isRooted path)

/-- The last part of a path, slashes at its end aside. -/
def baseOf (path : Bytes) : Bytes :=
  match ((parts path).filter (· ≠ [])).getLast? with
  | some part => part
  | none => if path = [] then here else [slash]

/-- The path of a name in a directory. -/
def child (directory name : Bytes) : Bytes :=
  if directory.getLast? = some slash then directory ++ name else directory ++ [slash] ++ name

end SyscallFilter.Files
