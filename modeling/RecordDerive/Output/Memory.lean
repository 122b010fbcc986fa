import RecordDerive.Output.Writer

/-!
# Writing to memory

Files are kept in the order of their paths.  A file that is written again with
the same contents is accepted and changes nothing.
-/

namespace RecordDerive.Output

open Text (FilePath)

/-- Files in the order of their paths. -/
structure Memory where
  files : List Code.Artifact
  deriving Repr, DecidableEq

namespace Memory

/-- A memory without files. -/
def empty : Memory := ⟨[]⟩

/-- The contents of the file at a path. -/
def contents? (memory : Memory) (path : FilePath) : Option String :=
  (memory.files.find? (·.target.same path)).map (·.contents)

/-- Files with one put in its place; none of them has its path. -/
def insert (file : Code.Artifact) : List Code.Artifact → List Code.Artifact
  | [] => [file]
  | first :: rest =>
    if file.target.before first.target then file :: first :: rest else first :: insert file rest

/-- Write a file. -/
def write (file : Code.Artifact) (memory : Memory) : Except WriteFault FilePath × Memory :=
  match memory.contents? file.target with
  | some contents =>
    if contents = file.contents then (.ok file.target, memory)
    else (.error (.conflict file.target), memory)
  | none => (.ok file.target, ⟨insert file memory.files⟩)

end Memory

instance : Writer Memory where
  write := Memory.write

end RecordDerive.Output
