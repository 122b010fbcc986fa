import RecordDerive.Code.Derive
import RecordDerive.Code.Docs
import RecordDerive.Code.Target
import RecordDerive.Config
import RecordDerive.Layout.Page

/-!
# Rendering a declaration

Rendering depends on the declaration and the configuration alone.  The paths are
read first, then the fields in their order; then the parts are put together and
laid out, and the path of the file is formed last.
-/

namespace RecordDerive.Code

open Grammar

/-- The version of what is generated for a declaration. -/
def templateVersion : Nat := 1

/-- A generated file. -/
structure Artifact where
  /-- The path below the output root. -/
  target : Text.FilePath
  contents : String
  deriving Repr, DecidableEq

/-- The part of generated code for a field. -/
def partOf (field : Field) : Except (Stop RenderFault) Part := do
  let member ← (memberOf field).mapError (.map .member)
  let type ←
    (Phrase.readType field.type).mapError fun cause =>
      .failed (.fieldType field.type field.name cause)
  return ⟨member, field.name, type⟩

/-- What generated code refers to. -/
def subjectOf {H : Type} (declaration : Declaration H) (config : Config) :
    Except (Stop RenderFault) Subject := do
  let path ← (declarationPath config.rootPath declaration).mapError .failed
  let runtime ←
    (Phrase.readPath config.runtimePath).mapError fun cause =>
      .failed (.runtimePath config.runtimePath cause)
  let parts ← declaration.fields.mapM partOf
  return {
    path
    runtime
    qualifiedName := declaration.qualifiedName
    displayName := Text.lastSegment declaration.name
    parts }

/-! ## The file -/

/-- Whether a path is read as a path but not where a type is expected. -/
def isPathOnly (path : Phrase) : Bool :=
  path.beginsWith "try"

/-- The cause for which the parts cannot stand where they are put.  Types in the
file cannot begin with every name that paths begin with; and a sum of bounds
that begins with a lifetime takes the parentheses of the tuple for its own. -/
def fileFault (subject : Subject) (selected : List Operation) : Option Fault :=
  if selected.isEmpty then none
  else if isPathOnly subject.path ||
      (selected.contains .product && isPathOnly subject.runtime) then
    some (.expected false Parse.typeStarts)
  else if selected.contains .product && subject.parts.head?.any (·.type.beginsWithLifetime) then
    some (.leftOver (some .round))
  else none

/-- Whether some part comes so late in the tuple of all of them that its position cannot
be written. -/
def hasLatePart (subject : Subject) (selected : List Operation) : Bool :=
  selected.contains .product && UInt32.size ≤ subject.parts.length

/-- The document of the implementations of some operations. -/
def fileDocs (subject : Subject) (selected : List Operation) : List Layout.Doc :=
  selected.flatMap fun operation => (operation.implementation subject).docs

/-- The text of the implementations of some operations. -/
def fileText (subject : Subject) (selected : List Operation) :
    Except (Stop RenderFault) String :=
  if hasLatePart subject selected then .error (.aborted .positionTooLarge)
  else match fileFault subject selected with
  | some cause => .error (.failed (.file cause))
  | none =>
    let documents := fileDocs subject selected
    match Layout.Doc.firstUnprintableIn documents with
    | some what => .error (.aborted (.unprintable what))
    | none => .ok (Layout.layout documents)

/-- The comment that files begin with. -/
def headerOf {H : Type} (declaration : Declaration H) : String :=
  let fields := declaration.fields.map fun field => field.name ++ ": " ++ field.type
  "// @generated by prodgen (template v" ++ toString templateVersion ++ "). Do not edit.\n" ++
    "// Source: " ++ declaration.qualifiedName ++
    " \x7b " ++ String.intercalate ", " fields ++ " \x7d\n\n"

/-- The file for a declaration, or the cause it is left without one. -/
def renderParts {H : Type} (declaration : Declaration H) (config : Config) :
    Except (Stop RenderFault) Artifact := do
  let subject ← subjectOf declaration config
  let body ← fileText subject config.selected
  let target ← (targetOf declaration).mapError fun cause => .failed (.target cause)
  return ⟨target, (if config.header then headerOf declaration else "") ++ body⟩

/-- The file for a declaration, or the fault it is reported with. -/
def render {H : Type} (declaration : Declaration H) (config : Config) :
    Except (Stop GenerationFault) Artifact :=
  (renderParts declaration config).mapError (.map (.render declaration.qualifiedName))

end RecordDerive.Code
