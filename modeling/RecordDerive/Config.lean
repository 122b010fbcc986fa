import RecordDerive.Code.Operation
import RecordDerive.Text.FilePath

/-!
# Configuration

Every setting has a default, so a configuration needs to say only what differs.
-/

namespace RecordDerive

/-- The directory that generated files are put below if no other is given. -/
def defaultOutputRoot : Text.FilePath := ⟨"target/prodgen"⟩

/-- What is generated, and where it refers to. -/
structure Config where
  /-- The directory that files are put below. -/
  outputRoot : Text.FilePath := defaultOutputRoot
  /-- The path of the module that products are defined in. -/
  runtimePath : String := "::prodgen_runtime"
  /-- The path that qualified names are put below. -/
  rootPath : String := "crate"
  /-- The operations derived for every declaration, in any order. -/
  operations : List Code.Operation := Code.Operation.defaults
  /-- Whether files begin with a comment on their source. -/
  header : Bool := true
  deriving Repr, DecidableEq

namespace Config

/-- Whether an operation is derived. -/
def derives (config : Config) (operation : Code.Operation) : Bool :=
  config.operations.contains operation

/-- The operations to derive, in the order they are rendered in. -/
def selected (config : Config) : List Code.Operation :=
  Code.Operation.all.filter config.derives

end Config

end RecordDerive
