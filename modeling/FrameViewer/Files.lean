import FrameViewer.Text.Bytes

/-! Reading a file by its path, below a working directory whose files are known. -/

namespace FrameViewer

structure FileEntry where
  path : String
  /-- The contents; a directory has none. -/
  bytes : Option Bytes

abbrev Files := List FileEntry

inductive FileError where
  | notFound
  | isDirectory
  | notDirectory
  | nameTooLong
  | nulInPath
  /-- Anything else, in the words of the file system. -/
  | other (reason : String)
  deriving DecidableEq, Repr

def FileError.message : FileError → String
  | notFound => "No such file or directory (os error 2)"
  | isDirectory => "Is a directory (os error 21)"
  | notDirectory => "Not a directory (os error 20)"
  | nameTooLong => "File name too long (os error 36)"
  | nulInPath => "file name contained an unexpected NUL byte"
  | other reason => reason

namespace Path

def parts (path : String) : List String :=
  path.splitOn "/"

/-- The parts that name something: empty ones and single dots do not. -/
def names (path : String) : List String :=
  (parts path).filter fun part => part ≠ "" ∧ part ≠ "."

/-- The last name of a path, unless the path ends on the way up or names nothing; then the whole
path stands for it. -/
def fileName (path : String) : String :=
  match (names path).getLast? with
  | some name => if name = ".." then path else name
  | none => path

end Path

namespace Files

/-- What lies at a place below the working directory, given by its names. -/
inductive Node where
  | file (bytes : Bytes)
  | directory
  | absent

/-- A place is a file or directory that is listed, or lies on the way to one that is. -/
def nodeAt (files : Files) (place : List String) : Node :=
  if place = [] then .directory
  else
    match files.find? fun entry => Path.names entry.path = place with
    | some { bytes := some bytes, .. } => .file bytes
    | some _ => .directory
    | none =>
      if files.any fun entry => place.isPrefixOf (Path.names entry.path) then .directory
      else .absent

/-- Where a walk stands: below the working directory, or that many directories above it. -/
inductive Place where
  | below (names : List String)
  | above (levels : Nat)

def Place.node (files : Files) : Place → Node
  | below names => files.nodeAt names
  | above _ => .directory

/-- One part further. Only a directory has parts; nothing is known of what lies above the working
directory. -/
def enter (files : Files) (place : Place) (part : String) : Except FileError Place :=
  match place.node files with
  | .absent => .error .notFound
  | .file _ => .error .notDirectory
  | .directory =>
    if part = "" ∨ part = "." then .ok place
    else if 255 < part.utf8ByteSize then .error .nameTooLong
    else
      match place with
      | .below names =>
        if part = ".." then .ok (if names = [] then .above 1 else .below names.dropLast)
        else .ok (.below (names ++ [part]))
      | .above levels => if part = ".." then .ok (.above (levels + 1)) else .error .notFound

/-- The root directory is above the working directory by more than any path climbs. -/
def root (path : String) : Place :=
  .above path.utf8ByteSize

/-- The bytes of the file at a path, or why they cannot be read. -/
def read (files : Files) (path : String) : Except FileError Bytes := do
  if path.toList.contains '\x00' then throw .nulInPath
  if path = "" then throw .notFound
  if 4095 < path.utf8ByteSize then throw .nameTooLong
  let start := if path.startsWith "/" then root path else .below []
  let place ← (Path.parts path).foldlM (enter files) start
  match place.node files with
  | .file bytes => return bytes
  | .directory => throw .isDirectory
  | .absent => throw .notFound

end Files
end FrameViewer
