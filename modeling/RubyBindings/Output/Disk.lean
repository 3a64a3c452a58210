/-
Module: RubyBindings.Output.Disk
Purpose: Files and directories, found by walking along the names of a path. Reading and writing
  fail where a path leads through something that is no directory, or ends at a directory.
Main exports: Disk, Disk.read, Disk.pathExists, Disk.createDirectories, Disk.write, Disk.files
-/
import RubyBindings.Output.Path

namespace RubyBindings

/-- Why the disk refuses an operation. -/
inductive DiskError where
  | notFound
  | notADirectory
  | isADirectory
  | nameTooLong
  | badName
deriving DecidableEq, Repr

/-- The wording of a refusal. -/
def DiskError.message : DiskError → String
  | .notFound => "no such file or directory"
  | .notADirectory => "not a directory"
  | .isADirectory => "is a directory"
  | .nameTooLong => "file name too long"
  | .badName => "file name contains a NUL character"

/-- What stands at a place of the disk. -/
inductive DiskEntry where
  | file (content : String)
  | directory
deriving DecidableEq, Repr

/-- A place of the disk: the names on the way to it, from the root on. -/
abbrev Place := List String

/-- What stands at each place; the root is always a directory. -/
structure Disk where
  entries : List (Place × DiskEntry)
deriving DecidableEq, Repr

namespace Disk

/-- A disk with nothing on it. -/
def empty : Disk where
  entries := []

/-- What stands at a place. -/
def entry? (disk : Disk) (place : Place) : Option DiskEntry :=
  if place = [] then some .directory else disk.entries.lookup place

/-- Put something at a place, in the place of what stood there. -/
def put (disk : Disk) (place : Place) (entry : DiskEntry) : Disk where
  entries := (place, entry) :: disk.entries.filter (·.1 != place)

/-- The longest name, in bytes. -/
def longestName : Nat := 255

/-- The longest spelling of a path, in bytes. -/
def longestPath : Nat := 4095

/-- Refuse a path that no disk can have, whatever is on it. -/
def requireSpelling (path : Path) : Except DiskError Unit :=
  if path.toList.contains '\x00' then .error .badName
  else if longestPath < path.utf8ByteSize then .error .nameTooLong
  else .ok ()

/-- Refuse a place that is no directory. -/
def requireDirectory (disk : Disk) (place : Place) : Except DiskError Unit :=
  match disk.entry? place with
  | some .directory => .ok ()
  | some (.file _) => .error .notADirectory
  | none => .error .notFound

/-- The place that one name leads to from a directory. -/
def step (disk : Disk) (place : Place) (name : String) : Except DiskError Place := do
  disk.requireDirectory place
  if name = ".." then return place.dropLast
  else if longestName < name.utf8ByteSize then throw .nameTooLong
  else return place ++ [name]

/-- The place that a list of names leads to. The last name need not exist. -/
def follow (disk : Disk) (names : List String) : Except DiskError Place :=
  names.foldlM disk.step []

/-- The place that a path leads to. The last name need not exist. -/
def resolve (disk : Disk) (path : Path) : Except DiskError Place := do
  requireSpelling path
  disk.follow path.segments

/-- What a path leads to. -/
def find (disk : Disk) (path : Path) : Except DiskError DiskEntry := do
  match disk.entry? (← disk.resolve path) with
  | none => throw .notFound
  | some .directory => return .directory
  | some (.file content) =>
    if path.namesDirectory then throw .notADirectory else return .file content

/-- Does a path lead to something? -/
def pathExists (disk : Disk) (path : Path) : Bool :=
  (disk.find path).isOk

/-- The content of a file. -/
def read (disk : Disk) (path : Path) : Except DiskError String := do
  match ← disk.find path with
  | .file content => return content
  | .directory => throw .isADirectory

/-- Walk along names and create the directories that are missing. The disk is what has been created
so far, also where the walk fails. -/
def createAlong (disk : Disk) (place : Place) : List String → Except DiskError Unit × Disk
  | [] => (disk.requireDirectory place, disk)
  | name :: names =>
    match disk.step place name with
    | .error error => (.error error, disk)
    | .ok next =>
      match disk.entry? next with
      | none => (disk.put next .directory).createAlong next names
      | some _ => disk.createAlong next names

/-- Refuse a path that leads to no directory. -/
def requireDirectoryAt (disk : Disk) (path : Path) : Except DiskError Unit := do
  match ← disk.find path with
  | .directory => return
  | .file _ => throw .notADirectory

/-- Create a directory together with the directories around it. The dot at the end of a path names
an entry of the directory before it, so that one has to be there already. -/
def createDirectories (disk : Disk) (path : Path) : Except DiskError Unit × Disk :=
  match requireSpelling path with
  | .error error => (.error error, disk)
  | .ok () =>
    if path.endsInDot then
      match disk.createAlong [] path.segments.dropLast with
      | (.error error, disk) => (.error error, disk)
      | (.ok (), disk) => (disk.requireDirectoryAt path, disk)
    else disk.createAlong [] path.segments

/-- Write a file in a directory that exists, in the place of an old file of that name. -/
def write (disk : Disk) (path : Path) (content : String) : Except DiskError Disk := do
  let place ← disk.resolve path
  if path.namesDirectory then throw .isADirectory
  match disk.entry? place with
  | some .directory => throw .isADirectory
  | _ => return disk.put place (.file content)

/-- The files of a disk with their places. -/
def files (disk : Disk) : List (Place × String) :=
  disk.entries.filterMap fun (place, entry) =>
    match entry with
    | .file content => some (place, content)
    | .directory => none

end Disk

end RubyBindings
