import RecordDerive.Metadata.Fault
import RecordDerive.Metadata.TypeRef
import RecordDerive.Text.Segments

/-!
# Name tables

A class never holds names inline.  Strings stand in one table; qualified names
stand in another, each entry naming its last segment and the entry of the name
that encloses it.  Entries come from outside and are not trusted: an index may
be absent, and the enclosing names may run in a circle.  A chain longer than the
table must repeat an entry, so resolution gives up after one step more than the
table has entries.
-/

namespace RecordDerive.Metadata

/-- What a segment of a qualified name names. -/
inductive SegmentKind
  | package
  | type
  deriving Repr, DecidableEq

/-- A segment of a resolved name. -/
structure Segment where
  kind : SegmentKind
  text : String
  deriving Repr, DecidableEq

/-- An entry of the table of qualified names. -/
structure QualifiedName where
  /-- The entry of the enclosing name, if there is one. -/
  parent : Option UInt32
  /-- The index of the last segment among the strings. -/
  short : UInt32
  kind : SegmentKind
  deriving Repr, DecidableEq

/-- The names a class refers to. -/
structure NameTable where
  strings : List String
  qualified : List QualifiedName
  deriving Repr, DecidableEq

namespace NameTable

/-- A table without names. -/
def empty : NameTable := ⟨[], []⟩

/-- A string by its index. -/
def string (table : NameTable) (index : UInt32) : Except Fault String :=
  match table.strings[index.toNat]? with
  | some text => .ok text
  | none => .error (.unknownName index)

/-- An entry of the qualified names by its index. -/
def entry (table : NameTable) (index : UInt32) : Except Fault QualifiedName :=
  match table.qualified[index.toNat]? with
  | some found => .ok found
  | none => .error (.unknownName index)

/-- The segments from an entry up to the outermost, put before those already
`collected`, in at most `steps` steps.  `start` is the index reported for a
chain that has not ended by then. -/
def climb (table : NameTable) (start : UInt32) :
    Nat → Option UInt32 → List Segment → Except Fault (List Segment)
  | _, none, collected => .ok collected
  | 0, some _, _ => .error (.cyclicName start)
  | steps + 1, some index, collected => do
    let found ← table.entry index
    let text ← table.string found.short
    climb table start steps found.parent (⟨found.kind, text⟩ :: collected)

/-- The segments of a qualified name, outermost first. -/
def segments (table : NameTable) (index : UInt32) : Except Fault (List Segment) :=
  table.climb index (table.qualified.length + 1) (some index) []

/-- The texts of the segments of one kind, joined. -/
def joinKind (kind : SegmentKind) (resolved : List Segment) : String :=
  Text.join ((resolved.filter (·.kind = kind)).map (·.text))

/-- A qualified name as text. -/
def qualifiedName (table : NameTable) (index : UInt32) : Except Fault String := do
  return Text.join ((← table.segments index).map (·.text))

/-- The package part of a qualified name, empty outside packages. -/
def packageOf (table : NameTable) (index : UInt32) : Except Fault String := do
  return joinKind .package (← table.segments index)

/-- The class part of a qualified name; a nested class has several segments. -/
def classPath (table : NameTable) (index : UInt32) : Except Fault String := do
  return joinKind .type (← table.segments index)

/-- Items with commas between them. -/
def listing (items : List String) : String :=
  String.intercalate ", " items

/-- The elements of a tuple in parentheses; a single one is followed by a
comma, which tells it from a type in parentheses. -/
def tupleText : List String → String
  | [only] => "(" ++ only ++ ",)"
  | elements => "(" ++ listing elements ++ ")"

/-- A class with its arguments, if it has any. -/
def appliedText (base : String) (arguments : List String) : String :=
  if arguments.isEmpty then base else base ++ "<" ++ listing arguments ++ ">"

/-- A type, wrapped if it may be absent. -/
def nullableText (nullable : Bool) (type : String) : String :=
  if nullable then "Option<" ++ type ++ ">" else type

/-- The text of a type that nests at most the given number of levels. -/
def typeTextWithin (table : NameTable) : Nat → TypeRef → Except Fault String
  | 0, _ => .error (.typeTooDeep TypeRef.maxDepth)
  | _ + 1, .parameter name => table.string name
  | levels + 1, .named name arguments nullable => do
    let base ← table.qualifiedName name
    let arguments ← arguments.mapM (table.typeTextWithin levels)
    return nullableText nullable (appliedText base arguments)
  | levels + 1, .tuple elements => do
    return tupleText (← elements.mapM (table.typeTextWithin levels))
  | levels + 1, .array element length => do
    let element ← table.typeTextWithin levels element
    return "[" ++ element ++ "; " ++ toString length.toNat ++ "]"

/-- The text of a type, with full names. -/
def typeText (table : NameTable) (type : TypeRef) : Except Fault String :=
  table.typeTextWithin TypeRef.maxDepth type

end NameTable

end RecordDerive.Metadata
