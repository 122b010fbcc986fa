import RecordDerive.Output.Writer

/-!
# Refusing files

A writer in front of another that refuses some files, or all of them.
-/

namespace RecordDerive.Output

/-- A writer, and the paths it is kept from; none stands for all. -/
structure Refusing (W : Type) where
  inner : W
  refused : List Text.FilePath
  deriving Repr, DecidableEq

namespace Refusing

/-- Whether a file is refused. -/
def refuses {W : Type} (writer : Refusing W) (file : Code.Artifact) : Bool :=
  writer.refused.isEmpty || writer.refused.any (·.same file.target)

/-- Write a file that is not refused. -/
def write {W : Type} [Writer W] (file : Code.Artifact) (writer : Refusing W) :
    Except WriteFault Text.FilePath × Refusing W :=
  if writer.refuses file then (.error (.system file.target .permissionDenied), writer)
  else
    let (answer, inner) := Writer.write file writer.inner
    (answer, { writer with inner })

end Refusing

instance {W : Type} [Writer W] : Writer (Refusing W) where
  write := Refusing.write

end RecordDerive.Output
