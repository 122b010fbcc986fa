import RecordDerive.Code.Member
import RecordDerive.Grammar.Parser

/-!
# Where a declaration is found and where its file goes

Packages become directories and the segments of the declaration's own name the
stem of the file.  A name holds no point, so the stems of different names
differ, and a file never stands where another needs a directory.
-/

namespace RecordDerive.Code

/-- The extension of generated files. -/
def extension : String := "rs"

/-- What stands between the segments of a nested name in a stem. -/
def nestedSeparator : String := "."

/-- A segment that is a name. -/
def checkedSegment (segment : String) : Except TargetFault String :=
  if isName segment then .ok segment else .error (.badSegment segment)

/-- The path of the file for a declaration. -/
def targetOf {H : Type} (declaration : Declaration H) : Except TargetFault Text.FilePath := do
  let directories ← (Text.segments declaration.package).mapM checkedSegment
  let names ← (Text.segments declaration.name).mapM checkedSegment
  if names.isEmpty then throw (.nameless declaration.qualifiedName)
  let stem := String.intercalate nestedSeparator names
  return .ofComponents (directories ++ [stem ++ "." ++ extension])

/-- The source text of the path to a declaration below a root. -/
def declarationPathText {H : Type} (root : String) (declaration : Declaration H) : String :=
  if root.isEmpty then declaration.qualifiedName
  else root ++ Text.separator ++ declaration.qualifiedName

/-- The path to a declaration below a root. -/
def declarationPath {H : Type} (root : String) (declaration : Declaration H) :
    Except RenderFault Grammar.Phrase :=
  let text := declarationPathText root declaration
  (Grammar.Phrase.readPath text).mapError (.declarationPath text)

/-- The path to a declaration with single blanks between its tokens. -/
def declarationPathSpelling {H : Type} (root : String) (declaration : Declaration H) :
    Except RenderFault String :=
  let text := declarationPathText root declaration
  (Grammar.spellPath text).mapError (.declarationPath text)

end RecordDerive.Code
