import RecordDerive.Output.Writer

/-!
# A file system

Files and directories by the names on the way to them.  Operations fail where a
file stands in the place of a directory or a directory in that of a file, and for
paths that no file can have.  What was created before a failure stays.
-/

namespace RecordDerive.Output

open Text (FilePath)

/-- What stands at a place. -/
inductive Node
  | directory
  | file (contents : String)
  deriving Repr, DecidableEq

/-- The places of a file system, other than its root. -/
structure Disk where
  entries : List (List String × Node)
  deriving Repr, DecidableEq

namespace Disk

/-- A file system with nothing in it. -/
def empty : Disk := ⟨[]⟩

/-- What stands at a place; the root is a directory. -/
def node? (disk : Disk) (place : List String) : Option Node :=
  if place.isEmpty then some .directory else disk.entries.lookup place

/-- Entries with what stands at a place exchanged, or added to them. -/
def putEntry (place : List String) (node : Node) :
    List (List String × Node) → List (List String × Node)
  | [] => [(place, node)]
  | (found, other) :: rest =>
    if found = place then (place, node) :: rest else (found, other) :: putEntry place node rest

/-- Let something stand at a place. -/
def put (disk : Disk) (place : List String) (node : Node) : Disk :=
  ⟨putEntry place node disk.entries⟩

/-- The most bytes of a name. -/
def maxNameSize : Nat := 255

/-- The most bytes of the text of a path. -/
def maxPathSize : Nat := 4095

/-- The cause for which no file can have a path. -/
def pathFault? (path : FilePath) : Option SystemFault :=
  if path.text.contains '\x00' then some .endInPath
  else if path.text.utf8ByteSize > maxPathSize then some .nameTooLong
  else none

/-- Whether no file can have a name. -/
def isTooLong (name : String) : Bool :=
  name.utf8ByteSize > maxNameSize

/-- Create the directories on the way from one place along some names, as far as
they are missing.  A file at the last place exists; one before it is not a
directory. -/
def createFrom (disk : Disk) (passed : List String) : List String → Except SystemFault Unit × Disk
  | [] => (.ok (), disk)
  | name :: rest =>
    let place := passed ++ [name]
    if isTooLong name then (.error .nameTooLong, disk)
    else
      match disk.node? place with
      | some .directory => disk.createFrom place rest
      | some (.file _) => (.error (if rest.isEmpty then .exists else .notDirectory), disk)
      | none => (disk.put place .directory).createFrom place rest

/-- Create a directory and those it is in. -/
def createDirectories (disk : Disk) (path : FilePath) : Except SystemFault Unit × Disk :=
  match pathFault? path with
  | some fault => (.error fault, disk)
  | none => disk.createFrom [] path.places

/-- Write a file whose directory exists. -/
def writeFile (disk : Disk) (path : FilePath) (contents : String) : Except SystemFault Disk :=
  match pathFault? path with
  | some fault => .error fault
  | none =>
    let isTooLong := path.places.getLast?.any isTooLong
    if path.text.isEmpty then .error .noEntry
    else
      match path.ending, disk.node? path.places with
      | .slash, _ | _, some .directory => .error .isDirectory
      | .name, _ =>
        if isTooLong then .error .nameTooLong else .ok (disk.put path.places (.file contents))
      | .point, some (.file _) => .error .notDirectory
      | .point, none => .error (if isTooLong then .nameTooLong else .noEntry)

/-- Write a file and create the directories it is in. -/
def store (disk : Disk) (path : FilePath) (contents : String) : Except SystemFault Unit × Disk :=
  match disk.createDirectories path.parent with
  | (.error fault, created) => (.error fault, created)
  | (.ok (), created) =>
    match created.writeFile path contents with
    | .error fault => (.error fault, created)
    | .ok written => (.ok (), written)

/-- How a place is listed: directories with a slash and without contents. -/
def listed : List String × Node → String × Option String
  | (place, .directory) => (String.intercalate "/" place ++ "/", none)
  | (place, .file contents) => (String.intercalate "/" place, some contents)

/-- All places in the order of their texts. -/
def listing (disk : Disk) : List (String × Option String) :=
  (disk.entries.map listed).mergeSort fun left right => left.1 ≤ right.1

end Disk

/-- A writer below a root in a file system.  What it has written it knows by
itself. -/
structure DiskWriter where
  root : FilePath
  disk : Disk
  written : List Code.Artifact
  deriving Repr, DecidableEq

namespace DiskWriter

/-- A writer that has written nothing. -/
def new (root : FilePath) (disk : Disk) : DiskWriter := ⟨root, disk, []⟩

/-- The contents that were written to a path. -/
def written? (writer : DiskWriter) (path : FilePath) : Option String :=
  (writer.written.find? (·.target.same path)).map (·.contents)

/-- Write a file, or accept one that was written before. -/
def write (file : Code.Artifact) (writer : DiskWriter) :
    Except WriteFault FilePath × DiskWriter :=
  let path := writer.root.join file.target
  match writer.written? path with
  | some contents =>
    if contents = file.contents then (.ok path, writer) else (.error (.conflict path), writer)
  | none =>
    match writer.disk.store path file.contents with
    | (.error cause, disk) => (.error (.system path cause), { writer with disk })
    | (.ok (), disk) =>
      (.ok path, { writer with disk, written := ⟨path, file.contents⟩ :: writer.written })

end DiskWriter

instance : Writer DiskWriter where
  write := DiskWriter.write

end RecordDerive.Output
