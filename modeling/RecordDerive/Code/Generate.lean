import RecordDerive.Code.Render

/-!
# Generating files for many declarations

Declarations are rendered one after the other, and a fault leaves the others as
they are.  The first declaration rendered for a path keeps it.  An abort loses
all of them.
-/

namespace RecordDerive.Code

/-- Files with the names of the declarations they are for, and the faults of
those left without one, each in the order of the declarations. -/
structure Generation where
  owned : List (String × Artifact)
  failures : List GenerationFault
  deriving Repr, DecidableEq

namespace Generation

/-- Nothing generated. -/
def empty : Generation := ⟨[], []⟩

/-- The generated files. -/
def artifacts (generation : Generation) : List Artifact :=
  generation.owned.map (·.2)

/-- Whether every declaration has its file. -/
def isComplete (generation : Generation) : Bool :=
  generation.failures.isEmpty

/-- The name of the declaration that a path is taken by. -/
def owner? (generation : Generation) (target : Text.FilePath) : Option String :=
  (generation.owned.find? fun entry => entry.2.target.same target).map (·.1)

/-- The generation with a file added for the named declaration, if the path is
free. -/
def add (generation : Generation) (name : String) (artifact : Artifact) : Generation :=
  match generation.owner? artifact.target with
  | some first =>
    { generation with
      failures := generation.failures ++ [.duplicateTarget artifact.target first name] }
  | none => { generation with owned := generation.owned ++ [(name, artifact)] }

/-- The generation with a declaration rendered. -/
def step {H : Type} (config : Config) (generation : Generation) (declaration : Declaration H) :
    Except Abort Generation :=
  match render declaration config with
  | .ok artifact => .ok (generation.add declaration.qualifiedName artifact)
  | .error (.failed fault) => .ok { generation with failures := generation.failures ++ [fault] }
  | .error (.aborted abort) => .error abort

end Generation

/-- The files for some declarations. -/
def generate {H : Type} (declarations : List (Declaration H)) (config : Config) :
    Except Abort Generation :=
  declarations.foldlM (Generation.step config) .empty

end RecordDerive.Code
