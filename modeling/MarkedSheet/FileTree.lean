import MarkedSheet.Encoding

/-!
# Files

A disk holds directories and files, and a tree is a disk seen from a current directory.  The
directories of a disk are those on the way to a place that it lists, be it that of a directory or of
a file.  A file has one place, since there are no links.  A path is followed part by part; every part
before the last one has to be a directory.
-/

namespace MarkedSheet

/-- Why a file could not be read or written. -/
inductive FileError where
  | notFound
  | notDirectory
  | isDirectory
  | nameTooLong
  | nulInName
  | notText
  | other (reason : String)
  deriving DecidableEq, Repr

def FileError.message : FileError → String
  | notFound => "No such file or directory (os error 2)"
  | notDirectory => "Not a directory (os error 20)"
  | isDirectory => "Is a directory (os error 21)"
  | nameTooLong => "File name too long (os error 36)"
  | nulInName => "file name contained an unexpected NUL byte"
  | notText => "stream did not contain valid UTF-8"
  | other reason => reason

/-- The names that lead from the root of a tree to a file or a directory. -/
abbrev Location := List String

namespace Location

def nameLimit : Nat :=
  255

def pathLimit : Nat :=
  4095

/-- The parts of a path between its slashes, in order. -/
def parts : List Char → List (List Char)
  | [] => [[]]
  | c :: rest =>
      match parts rest with
      | [] => [[c]]
      | p :: ps => if c = '/' then [] :: p :: ps else (c :: p) :: ps

/-- The names in a path, in order; slashes beyond the first between two names say nothing. -/
def names (path : String) : Location :=
  ((parts path.toList).filter fun p => !p.isEmpty).map String.ofList

/-- The path from the root to a place below it. -/
def path (p : Location) : String :=
  String.join (p.map fun name => "/" ++ name)

/-- The file that is on every disk, reads as empty and keeps nothing. -/
def nullDevice : Location :=
  ["dev", "null"]

end Location

/-- The directories and the files of a machine. -/
structure Disk where
  directories : List Location
  files : List (Location × Bytes)
  deriving DecidableEq, Repr

/-- A disk and the place of the current directory. -/
structure FileTree extends Disk where
  current : Location
  deriving DecidableEq, Repr

namespace Disk

/-- What is found at a place. -/
inductive Entry where
  | directory
  | file (bytes : Bytes)
  deriving DecidableEq, Repr

/-- Where a path leads: to a directory, or to a name in one, which may be asked to be that of a
directory. -/
inductive Destination where
  | directory (place : Location)
  | name (place : Location) (asDirectory : Bool)
  deriving DecidableEq, Repr

/-- The content of the file at a place. -/
def bytes? (d : Disk) (p : Location) : Option Bytes :=
  if p = Location.nullDevice then some #[] else d.files.lookup p

def isDirectory (d : Disk) (p : Location) : Bool :=
  d.directories.any p.isPrefixOf ||
    (Location.nullDevice :: d.files.map (·.1)).any fun q => p.isPrefixOf q && p ≠ q

/-- What is at a place whose last name is looked up in its directory. -/
def look (d : Disk) (p : Location) : Except FileError Entry :=
  if Location.nameLimit < (p.getLast?.getD "").utf8ByteSize then .error .nameTooLong
  else if d.isDirectory p then .ok .directory
  else
    match d.bytes? p with
    | some bytes => .ok (.file bytes)
    | none => .error .notFound

/-- Go on from a directory by one part of a path. -/
def enter (d : Disk) (p : Location) (part : String) : Except FileError Location :=
  if part = "." then .ok p
  else if part = ".." then .ok p.dropLast
  else
    (d.look (p ++ [part])).bind fun
      | .directory => .ok (p ++ [part])
      | .file _ => .error .notDirectory

/-- Where the names of a path lead from a directory on. -/
def follow (d : Disk) (start : Location) (names : List String) (asDirectory : Bool) :
    Except FileError Destination :=
  match names.getLast? with
  | none => .ok (.directory start)
  | some last =>
      (names.dropLast.foldlM d.enter start).bind fun p =>
        if last = "." ∨ last = ".." then (d.enter p last).map .directory
        else .ok (.name (p ++ [last]) asDirectory)

/-- The files with the content of one replaced, or with a new one at the end. -/
def putFile (p : Location) (bytes : Bytes) : List (Location × Bytes) → List (Location × Bytes)
  | [] => [(p, bytes)]
  | (q, b) :: rest => if q = p then (p, bytes) :: rest else (q, b) :: putFile p bytes rest

/-- The disk with a file of the given content. -/
def put (d : Disk) (p : Location) (bytes : Bytes) : Disk :=
  if p = Location.nullDevice then d else { d with files := putFile p bytes d.files }

/-- The disk without a directory and all that is in it. -/
def without (d : Disk) (p : Location) : Disk where
  directories := d.directories.filter fun q => !p.isPrefixOf q
  files := d.files.filter fun f => !p.isPrefixOf f.1

end Disk

namespace FileTree

open Disk (Destination)

/-- The directory in which a path starts: a slash at its front is the root. -/
def start (t : FileTree) (path : String) : Location :=
  if path.toList.head? = some '/' then [] else t.current

/-- Where a path leads; one that ends in a slash asks for a directory. -/
def find (t : FileTree) (path : String) : Except FileError Destination :=
  if path.toList.contains '\x00' then .error .nulInName
  else if path.isEmpty then .error .notFound
  else if Location.pathLimit < path.utf8ByteSize then .error .nameTooLong
  -- The current directory may be gone.
  else if t.isDirectory (t.start path) then
    t.follow (t.start path) (Location.names path) (path.toList.getLast? = some '/')
  else .error .notFound

/-- Whether a path leads to a directory. -/
def leadsToDirectory (t : FileTree) (path : String) : Bool :=
  match t.find path with
  | .ok (.directory _) => true
  | .ok (.name p _) => t.isDirectory p
  | .error _ => false

/-- Whether two paths lead to the same place. -/
def isSame (t : FileTree) (a b : String) : Bool :=
  match t.find a, t.find b with
  | .ok x, .ok y => x = y
  | _, _ => false

/-- The content of the file that a path names. -/
def read (t : FileTree) (path : String) : Except FileError Bytes :=
  (t.find path).bind fun
    | .directory _ => .error .isDirectory
    | .name p asDirectory =>
        (t.look p).bind fun
          | .directory => .error .isDirectory
          | .file bytes => if asDirectory then .error .notDirectory else .ok bytes

/-- The tree with a file of the given content. -/
def put (t : FileTree) (p : Location) (bytes : Bytes) : FileTree :=
  { t with toDisk := t.toDisk.put p bytes }

/-- The tree after the file that a path names was given a content; it may be a new file. -/
def write (t : FileTree) (path : String) (bytes : Bytes) : Except FileError FileTree :=
  (t.find path).bind fun
    | .directory _ => .error .isDirectory
    -- No file is made under a name that asks for a directory, whether there is one or not.
    | .name _ true => .error .isDirectory
    | .name p false =>
        match t.look p with
        | .ok .directory => .error .isDirectory
        | .ok (.file _) => .ok (t.put p bytes)
        | .error .notFound => .ok (t.put p bytes)
        | .error reason => .error reason

/-- A tree of the files that paths name from the current directory on. -/
def ofFiles (current : Location) (files : List (String × Bytes)) : FileTree :=
  files.foldl (fun t f => t.put (current ++ Location.names f.1) f.2) ⟨⟨[current], []⟩, current⟩

end FileTree

end MarkedSheet
