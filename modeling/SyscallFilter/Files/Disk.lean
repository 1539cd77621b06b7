import SyscallFilter.Files.Replacement

/-! The files of a tree, on a disk that may fail. The tree decides where a path leads; everything
    else that can go wrong with a file is up to the disk, and so are the names of temporary files.
    -/

namespace SyscallFilter.Files

open SyscallFilter Output

/-- How a disk answers what is done with files: the numbers that are drawn for temporary files, and
    the failures for which the tree is no reason. -/
structure Disk where
  /-- The number drawn after a number of others. -/
  number : Nat → UInt32
  opening : Option FileError := none
  /-- After how many bytes reading fails, and why. -/
  reading : Option (Nat × FileError) := none
  /-- Why a file that was read cannot be closed. -/
  closing : Option FileError := none
  creating : Option FileError := none
  /-- After how many bytes writing fails, and why. -/
  writing : Option (Nat × FileError) := none
  syncing : Option FileError := none
  granting : Option FileError := none
  /-- Why a new file cannot be closed. -/
  sealing : Option FileError := none
  moving : Option FileError := none

namespace Tree

/-- The place of a target that a file may take; a directory is never replaced. -/
def targetPlace (t : Tree) (path : Bytes) : Except FileError Place :=
  match t.locate path with
  | .ok p => if t.get? p = some .directory then .error .exists else .ok p
  | .error .notFound => t.placeFor path
  | .error e => .error e

/-- Makes an empty file that a path names, where nothing is. -/
def createFile (t : Tree) (path : Bytes) : Except FileError Place × Tree :=
  match t.placeFor path with
  | .error cause => (.error cause, t)
  | .ok p =>
    if (t.get? p).isSome then (.error .exists, t) else (.ok p, t.insert p (.file []))

/-- Moves the node at a place to the place that a path names. -/
def move (t : Tree) (p : Place) (path : Bytes) : Option FileError × Tree :=
  match t.targetPlace path, t.get? p with
  | .error cause, _ => (some cause, t)
  | .ok _, none => (some .notFound, t)
  | .ok q, some n => (none, (t.erase p).insert q n)

end Tree

/-- An open file of a tree. -/
structure OpenFile where
  path : Bytes
  place : Place

namespace Disk

/-- The sink of a file: it has room for what the disk takes, and reports why that is not more. -/
def sink (d : Disk) (path : Bytes) : Sink :=
  match d.writing with
  | none => {}
  | some (room, cause) =>
    { capacity := .limited room (some (.reported (pathMessage "write" path cause))) }

/-- Opens the file that a path leads to and reads it, as far as the disk allows. -/
def readFile (d : Disk) (t : Tree) (path : Bytes) : Except FileError Reading :=
  match d.opening, t.readFile path with
  | some cause, _ => .error cause
  | none, .error cause => .error cause
  | none, .ok r =>
    let r := { r with closing := d.closing }
    match d.reading with
    | none => .ok r
    | some (count, cause) =>
      .ok { r with content := r.content.take count, failure := some cause }

/-- The files of a tree, on a disk. -/
def files (d : Disk) : FileSystem (StateM Tree) OpenFile where
  draw tried := return d.number tried
  create path := fun t =>
    match d.creating, t.createFile path with
    | some cause, _ => (.error cause, t)
    | none, (.error cause, t) => (.error cause, t)
    | none, (.ok place, t) => (.ok { path, place }, t)
  write file w := fun t =>
    let (loss, sink) := w (d.sink file.path)
    (loss, t.insert file.place (.file sink.bytes))
  sync _ := return d.syncing
  grant _ := return d.granting
  close _ := return d.sealing
  rename file path := fun t =>
    match d.moving with
    | some cause => (some cause, t)
    | none => t.move file.place path
  remove file := modify (·.erase file.place)

/-- Replaces the file that a path names in a tree. -/
def replace (d : Disk) (t : Tree) (path : Bytes) (w : Writer) : Option ReplaceError × Tree :=
  (d.files.replace path w).run t

end Disk

end SyscallFilter.Files
