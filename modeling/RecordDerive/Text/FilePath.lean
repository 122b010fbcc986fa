/-!
# File paths

A path is a text with slashes between its components.  Two paths are the same
place if they have the same components: repeated slashes, a slash at the end and
single points after the first component make no difference.  Messages show the
text as it was given.
-/

namespace RecordDerive.Text

/-- A path to a file or directory. -/
structure FilePath where
  text : String
  deriving Repr, DecidableEq

namespace FilePath

/-- The pieces of a text between slashes, at least one. -/
def slashPieces : List Char → List (List Char)
  | [] => [[]]
  | '/' :: rest => [] :: slashPieces rest
  | first :: rest =>
    match slashPieces rest with
    | [] => [[first]]
    | piece :: others => (first :: piece) :: others

/-- Whether a piece is a component of its own, wherever it stands. -/
def isOrdinary (piece : List Char) : Bool :=
  !piece.isEmpty && piece != ['.']

/-- The components of a path.  A slash in front of a path, or a point that is
its first piece, is a component as well. -/
def components (path : FilePath) : List String :=
  match slashPieces path.text.toList with
  | [] => []
  | first :: rest =>
    let ordinary := (rest.filter isOrdinary).map String.ofList
    if first.isEmpty then
      if rest.isEmpty then [] else "/" :: ordinary
    else String.ofList first :: ordinary

/-- The components of a path that move to another place. -/
def places (path : FilePath) : List String :=
  path.components.filter (· ≠ ".")

/-- How the text of a path ends. -/
inductive Ending
  /-- With the name of a file or directory. -/
  | name
  /-- With slashes. -/
  | slash
  /-- With a point, which stands for the directory before it. -/
  | point
  deriving Repr, DecidableEq

/-- The ending that reversed pieces of a path have. -/
def endingOf : List (List Char) → Ending
  | [] => .slash
  | last :: before =>
    if last = ['.'] then .point
    else if !last.isEmpty then .name
    else match endingOf before with
      | .point => .point
      | .name | .slash => .slash

/-- How a path ends. -/
def ending (path : FilePath) : Ending :=
  endingOf (slashPieces path.text.toList).reverse

/-- The directory that a path is in: what stands before its last component, as it
was given. -/
def parent (path : FilePath) : FilePath :=
  match slashPieces path.text.toList with
  | [] => ⟨""⟩
  | first :: rest =>
    match rest.reverse.dropWhile (!isOrdinary ·) with
    | [] => ⟨""⟩
    | _ :: before =>
      let kept := (before.dropWhile (!isOrdinary ·)).reverse
      if first.isEmpty && kept.isEmpty then ⟨"/"⟩
      else ⟨String.intercalate "/" ((first :: kept).map String.ofList)⟩

/-- Whether two paths are the same place. -/
def same (left right : FilePath) : Bool :=
  left.components == right.components

/-- The path made of some components. -/
def ofComponents (components : List String) : FilePath :=
  ⟨String.intercalate "/" components⟩

/-- A path inside a directory; a path that begins with a slash stays as it is. -/
def join (directory inside : FilePath) : FilePath :=
  if inside.text.toList.head? = some '/' then inside
  else if directory.text.isEmpty then inside
  else if directory.text.toList.getLast? = some '/' then ⟨directory.text ++ inside.text⟩
  else ⟨directory.text ++ "/" ++ inside.text⟩

/-- The rank of a component: a leading slash before a leading point before any
name. -/
def rank (component : String) : Nat :=
  if component = "/" then 0 else if component = "." then 1 else 2

/-- Whether one component comes before another. -/
def componentBefore (left right : String) : Bool :=
  rank left < rank right || (rank left == rank right && decide (left < right))

/-- Whether a list of components comes before another, component by component,
shorter ones first. -/
def componentsBefore : List String → List String → Bool
  | _, [] => false
  | [], _ :: _ => true
  | left :: lefts, right :: rights =>
    componentBefore left right || (left == right && componentsBefore lefts rights)

/-- Whether a path comes before another. -/
def before (left right : FilePath) : Bool :=
  componentsBefore left.components right.components

end FilePath

end RecordDerive.Text
