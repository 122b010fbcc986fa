import RecordDerive.Grammar.Fault
import RecordDerive.Text.Escape
import RecordDerive.Text.FilePath

/-!
# Why no code is generated

Rendering a declaration ends with a file, with a failure that is reported for
the declaration, or, for some names, types and numbers of fields, by aborting:
then nothing is answered, and declarations rendered in the same run are lost with
it.
-/

namespace RecordDerive.Code

/-- The causes for which a rendering aborts. -/
inductive Abort
  /-- A field name consists of letters and numerals, but not those of
  identifiers. -/
  | notIdentifier (name : String)
  /-- A type is accepted that has no layout. -/
  | unprintable (what : String)
  /-- A tuple has an element whose position cannot be written. -/
  | positionTooLarge
  deriving Repr, DecidableEq

/-- The wording of an abort. -/
def Abort.message : Abort → String
  | .notIdentifier name => Text.quote name ++ " is not a valid Ident"
  | .unprintable what => "not implemented: " ++ what
  | .positionTooLarge => "assertion failed: index < u32::MAX as usize"

/-- Why a rendering ends without a file. -/
inductive Stop (Cause : Type)
  | failed (cause : Cause)
  | aborted (abort : Abort)
  deriving Repr, DecidableEq

/-- A stop with its cause seen as another. -/
def Stop.map {Cause Other : Type} (image : Cause → Other) : Stop Cause → Stop Other
  | .failed cause => .failed (image cause)
  | .aborted abort => .aborted abort

/-- The causes for which a field name is no member. -/
inductive MemberFault
  | notName (name : String)
  | reserved (name : String)
  | positionTooLarge (name : String)
  deriving Repr, DecidableEq

/-- The wording of a member fault. -/
def MemberFault.message : MemberFault → String
  | .notName name => "`" ++ name ++ "` is not a valid field name"
  | .reserved name => "`" ++ name ++ "` cannot be used as a field name"
  | .positionTooLarge name =>
      "invalid positional field `" ++ name ++ "`: number too large to fit in target type"

/-- The causes for which a declaration has no file path. -/
inductive TargetFault
  | badSegment (segment : String)
  | nameless (declaration : String)
  deriving Repr, DecidableEq

/-- The wording of a target fault. -/
def TargetFault.message : TargetFault → String
  | .badSegment segment => "`" ++ segment ++ "` cannot be used as a path segment"
  | .nameless declaration => "`" ++ declaration ++ "` has no name to derive a file from"

/-- The causes for which a declaration cannot be rendered. -/
inductive RenderFault
  | declarationPath (path : String) (cause : Grammar.Fault)
  | runtimePath (path : String) (cause : Grammar.Fault)
  | member (cause : MemberFault)
  | fieldType (type field : String) (cause : Grammar.Fault)
  /-- The parts can be read, but not where they stand in the file. -/
  | file (cause : Grammar.Fault)
  | target (cause : TargetFault)
  deriving Repr, DecidableEq

/-- The wording of a render fault. -/
def RenderFault.message : RenderFault → String
  | .declarationPath path cause =>
      "invalid declaration path `" ++ path ++ "`: " ++ cause.message
  | .runtimePath path cause => "invalid runtime path `" ++ path ++ "`: " ++ cause.message
  | .member cause => cause.message
  | .fieldType type field cause =>
      "type `" ++ type ++ "` of field `" ++ field ++ "` does not parse: " ++ cause.message
  | .file cause => "generated code does not parse: " ++ cause.message
  | .target cause => cause.message

/-- The causes for which a declaration is left without a file. -/
inductive GenerationFault
  | render (name : String) (cause : RenderFault)
  /-- An earlier declaration has the same path. -/
  | duplicateTarget (target : Text.FilePath) (first second : String)
  deriving Repr, DecidableEq

namespace GenerationFault

/-- The declaration left without a file. -/
def declaration : GenerationFault → String
  | .render name _ => name
  | .duplicateTarget _ _ second => second

/-- The wording of a fault. -/
def message : GenerationFault → String
  | .render name cause => "Failed to render " ++ name ++ ": " ++ cause.message
  | .duplicateTarget target first second =>
      first ++ " and " ++ second ++ " both generate " ++ target.text

end GenerationFault

end RecordDerive.Code
