import RecordDerive.Metadata.NameTable

/-!
# Building name tables

An interner hands out one index per text and one per qualified name: asked again
for something it holds, it answers with the index it gave before.  Answers stay
valid, since the tables only grow at their ends.
-/

namespace RecordDerive.Metadata

/-- A name table under construction. -/
structure Interner where
  table : NameTable
  deriving Repr, DecidableEq

namespace Interner

/-- An interner that holds nothing. -/
def empty : Interner := ⟨.empty⟩

/-- The index of an item in a list, with the list it is in: the given one, or
that one with the item at its end. -/
def place {α : Type} [DecidableEq α] (items : List α) (item : α) : UInt32 × List α :=
  match items.idxOf? item with
  | some index => (UInt32.ofNat index, items)
  | none => (UInt32.ofNat items.length, items ++ [item])

/-- The index of a string. -/
def string (interner : Interner) (text : String) : UInt32 × Interner :=
  let (index, strings) := place interner.table.strings text
  (index, ⟨{ interner.table with strings }⟩)

/-- The index of a segment inside an enclosing name. -/
def segment (interner : Interner) (parent : Option UInt32) (text : String) (kind : SegmentKind) :
    UInt32 × Interner :=
  let (short, interner) := interner.string text
  let (index, qualified) := place interner.table.qualified ⟨parent, short, kind⟩
  (index, ⟨{ interner.table with qualified }⟩)

/-- The index of the innermost of some segments inside an enclosing name. -/
def path (interner : Interner) (parent : Option UInt32) :
    List Segment → Option UInt32 × Interner
  | [] => (parent, interner)
  | ⟨kind, text⟩ :: rest =>
    let (index, interner) := interner.segment parent text kind
    path interner (some index) rest

/-- The segments of a class in a package. -/
def classSegments (package classPath : String) : List Segment :=
  (Text.segments package).map (⟨.package, ·⟩) ++ (Text.segments classPath).map (⟨.type, ·⟩)

/-- The index of a class in a package.  Where both are without segments, an
unnamed class stands for it. -/
def classIn (interner : Interner) (package classPath : String) : UInt32 × Interner :=
  match interner.path none (classSegments package classPath) with
  | (some index, interner) => (index, interner)
  | (none, interner) => interner.segment none "" .type

/-- The index of a class by its full name, every segment of which but the last
is a package. -/
def className (interner : Interner) (name : String) : UInt32 × Interner :=
  match Text.splitLast name with
  | some (package, last) => interner.classIn package last
  | none => interner.classIn "" name

end Interner

end RecordDerive.Metadata
