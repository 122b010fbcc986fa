import RecordDerive.Code.Render

/-!
# Where generated files go

A writer takes files one at a time.  It never accepts two different contents for
one place.
-/

namespace RecordDerive.Output

open Text (FilePath)

/-- What a file system refuses. -/
inductive SystemFault
  | noEntry
  | exists
  | notDirectory
  | isDirectory
  | nameTooLong
  /-- A path holds the character that ends paths. -/
  | endInPath
  | permissionDenied
  deriving Repr, DecidableEq

/-- The wording of a refusal. -/
def SystemFault.message : SystemFault → String
  | .noEntry => "No such file or directory (os error 2)"
  | .exists => "File exists (os error 17)"
  | .notDirectory => "Not a directory (os error 20)"
  | .isDirectory => "Is a directory (os error 21)"
  | .nameTooLong => "File name too long (os error 36)"
  | .endInPath => "file name contained an unexpected NUL byte"
  | .permissionDenied => "permission denied"

/-- The causes for which a file is not written. -/
inductive WriteFault
  | system (path : FilePath) (cause : SystemFault)
  | conflict (path : FilePath)
  deriving Repr, DecidableEq

/-- The wording of a write fault. -/
def WriteFault.message : WriteFault → String
  | .system path cause => "Failed to write " ++ path.text ++ ": " ++ cause.message
  | .conflict path => "Refusing to write different contents to " ++ path.text ++ " twice"

/-- A type of writers. -/
class Writer (W : Type) where
  /-- Write a file; the result tells where it went. -/
  write : Code.Artifact → W → Except WriteFault FilePath × W

end RecordDerive.Output
