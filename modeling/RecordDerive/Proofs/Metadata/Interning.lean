import RecordDerive.Metadata.Interner

/-!
# What interners hand out

An interner's tables only grow at their ends, and every entry of the qualified names is
enclosed by earlier ones.  So what an index stands for when it is handed out it stands
for ever after, whatever else the interner is asked for, and looking it up finds it.
-/

namespace RecordDerive.Metadata

/-- The number of indices. -/
def indexBound : Nat := 4294967296

/-! ## Chains of enclosing names -/

namespace NameTable

/-- The segments from the outermost enclosing name to an entry. -/
inductive Chain (table : NameTable) : Option UInt32 → List Segment → Prop
  | root : Chain table none []
  | inside {index : UInt32} {entry : QualifiedName} {text : String} {outer : List Segment}
      (found : table.qualified[index.toNat]? = some entry)
      (spelled : table.strings[entry.short.toNat]? = some text)
      (enclosed : Chain table entry.parent outer) :
      Chain table (some index) (outer ++ [⟨entry.kind, text⟩])

/-- Every entry is enclosed by an earlier one. -/
structure Ordered (table : NameTable) : Prop where
  before : ∀ {position : Nat} {entry : QualifiedName} {parent : UInt32},
    table.qualified[position]? = some entry → entry.parent = some parent →
      parent.toNat < position

/-- A table that begins with another one. -/
structure Extends (later table : NameTable) : Prop where
  strings : table.strings <+: later.strings
  qualified : table.qualified <+: later.qualified

theorem Extends.refl (table : NameTable) : table.Extends table where
  strings := List.prefix_refl _
  qualified := List.prefix_refl _

theorem Extends.trans {last later table : NameTable} (second : last.Extends later)
    (first : later.Extends table) : last.Extends table where
  strings := first.strings.trans second.strings
  qualified := first.qualified.trans second.qualified

/-- What stands in a list stands in every longer one. -/
theorem getElem?_of_begins {α : Type} {items longer : List α} (begins : items <+: longer)
    {position : Nat} {item : α} (found : items[position]? = some item) :
    longer[position]? = some item := by
  obtain ⟨inside, rfl⟩ := List.getElem?_eq_some_iff.mp found
  exact List.prefix_iff_getElem?.mp begins position inside

/-- A table all of whose entries have indices. -/
structure Small (table : NameTable) : Prop where
  strings : table.strings.length < indexBound
  qualified : table.qualified.length < indexBound

theorem Small.of_extends {table later : NameTable} (small : later.Small)
    (extends_ : later.Extends table) : table.Small where
  strings := Nat.lt_of_le_of_lt extends_.strings.length_le small.strings
  qualified := Nat.lt_of_le_of_lt extends_.qualified.length_le small.qualified

variable {table later : NameTable} {index : Option UInt32} {segments : List Segment}

theorem Chain.mono (chain : table.Chain index segments) (extends_ : later.Extends table) :
    later.Chain index segments := by
  induction chain with
  | root => exact .root
  | inside found spelled enclosed ih =>
      exact .inside (getElem?_of_begins extends_.qualified found)
        (getElem?_of_begins extends_.strings spelled) ih

/-- The chain below a position is no longer than the position is high. -/
theorem Chain.length_le (ordered : table.Ordered) (chain : table.Chain index segments) {bound : Nat}
    (below : ∀ position, index = some position → position.toNat < bound) :
    segments.length ≤ bound := by
  induction chain generalizing bound with
  | root => exact Nat.zero_le bound
  | @inside index entry text outer found spelled enclosed ih =>
      have shorter : outer.length ≤ index.toNat := by
        apply ih
        intro parent enclosing
        exact ordered.before found enclosing
      have position := below index rfl
      rw [List.length_append, List.length_singleton]
      omega

theorem Chain.lt_length {index : UInt32} (chain : table.Chain (some index) segments) :
    index.toNat < table.qualified.length := by
  cases chain with
  | inside found spelled enclosed => exact (List.getElem?_eq_some_iff.mp found).1

/-- A step up puts one segment before those that were collected. -/
theorem climb_inside {index start : UInt32} {entry : QualifiedName} {text : String}
    (found : table.qualified[index.toNat]? = some entry)
    (spelled : table.strings[entry.short.toNat]? = some text) (steps : Nat)
    (collected : List Segment) :
    table.climb start (steps + 1) (some index) collected =
      table.climb start steps entry.parent (⟨entry.kind, text⟩ :: collected) := by
  rw [climb, NameTable.entry, found]
  show (table.string entry.short >>= _) = _
  rw [string, spelled]
  rfl

/-- Climbing goes up the chain. -/
theorem Chain.climb (chain : table.Chain index segments) (start : UInt32) {steps : Nat}
    (enough : segments.length ≤ steps) (collected : List Segment) :
    table.climb start steps index collected = .ok (segments ++ collected) := by
  induction chain generalizing steps collected with
  | root => cases steps <;> rfl
  | @inside index entry text outer found spelled enclosed ih =>
      rw [List.length_append, List.length_singleton] at enough
      cases steps with
      | zero => omega
      | succ steps =>
          rw [climb_inside found spelled, ih (Nat.le_of_succ_le_succ enough), List.append_assoc]
          rfl

/-- The segments of an entry are those of its chain. -/
theorem Chain.segments_eq {index : UInt32} (ordered : table.Ordered)
    (chain : table.Chain (some index) segments) : table.segments index = .ok segments := by
  have short : segments.length ≤ table.qualified.length := by
    apply chain.length_le ordered
    intro position same
    cases same
    exact chain.lt_length
  rw [NameTable.segments, chain.climb index (Nat.le_succ_of_le short) [], List.append_nil]

end NameTable

/-! ## Requests -/

/-- A class as an interner is asked for it. -/
inductive ClassName
  /-- By its full name, every segment of which but the last is a package. -/
  | full (name : String)
  | within (package classPath : String)
  deriving Repr, DecidableEq

/-- What an interner can be asked for. -/
inductive Request
  | text (content : String)
  | type (name : ClassName)
  deriving Repr, DecidableEq

namespace ClassName

/-- The segments of a class in a package; without any there is an unnamed one. -/
def segmentsWithin (package classPath : String) : List Segment :=
  match Interner.classSegments package classPath with
  | [] => [⟨.type, ""⟩]
  | first :: rest => first :: rest

/-- The segments that a class is found under. -/
def segments : ClassName → List Segment
  | .within package classPath => segmentsWithin package classPath
  | .full name =>
      match Text.splitLast name with
      | some (package, last) => segmentsWithin package last
      | none => segmentsWithin "" name

/-- The full name of a class. -/
def text (name : ClassName) : String :=
  Text.join (name.segments.map (·.text))

end ClassName

namespace Interner

/-- The answer to a request. -/
def answer (interner : Interner) : Request → UInt32 × Interner
  | .text content => interner.string content
  | .type (.full name) => interner.className name
  | .type (.within package classPath) => interner.classIn package classPath

/-- Some requests with their answers, and the interner after them. -/
def serve (interner : Interner) : List Request → List (Request × UInt32) × Interner
  | [] => ([], interner)
  | request :: rest =>
      let (index, after) := interner.answer request
      let (answers, reached) := serve after rest
      ((request, index) :: answers, reached)

theorem path_cons (interner : Interner) (parent : Option UInt32) (first : Segment)
    (rest : List Segment) :
    interner.path parent (first :: rest) =
      (interner.segment parent first.text first.kind).2.path
        (some (interner.segment parent first.text first.kind).1) rest := rfl

theorem serve_cons (interner : Interner) (request : Request) (rest : List Request) :
    interner.serve (request :: rest) =
      ((request, (interner.answer request).1) :: ((interner.answer request).2.serve rest).1,
        ((interner.answer request).2.serve rest).2) := rfl

/-! ## Growth -/

theorem prefix_place {α : Type} [DecidableEq α] (items : List α) (item : α) :
    items <+: (place items item).2 := by
  rw [place]
  cases items.idxOf? item with
  | some index => exact List.prefix_refl _
  | none => exact List.prefix_append _ _

theorem string_extends (interner : Interner) (text : String) :
    (interner.string text).2.table.Extends interner.table where
  strings := prefix_place _ _
  qualified := List.prefix_refl _

theorem segment_extends (interner : Interner) (parent : Option UInt32) (text : String)
    (kind : SegmentKind) : (interner.segment parent text kind).2.table.Extends interner.table where
  strings := prefix_place _ _
  qualified := prefix_place _ _

/-- A property of tables that interning one string or one segment does not take away. -/
structure Kept (property : NameTable → Prop) : Prop where
  string : ∀ {interner : Interner} (text : String), property interner.table →
    property (interner.string text).2.table
  segment : ∀ {interner : Interner} (parent : Option UInt32) (text : String) (kind : SegmentKind),
    property interner.table → property (interner.segment parent text kind).2.table

namespace Kept

variable {property : NameTable → Prop} {interner : Interner}

theorem path (kept : Kept property) (parent : Option UInt32) (segments : List Segment)
    (start : property interner.table) : property (interner.path parent segments).2.table := by
  induction segments generalizing interner parent with
  | nil => exact start
  | cons first rest ih =>
      rw [path_cons]
      apply ih
      exact kept.segment parent first.text first.kind start

theorem classIn (kept : Kept property) (package classPath : String)
    (start : property interner.table) :
    property (interner.classIn package classPath).2.table := by
  have walk := kept.path none (classSegments package classPath) start
  rw [Interner.classIn]
  rcases walked : interner.path none (classSegments package classPath) with ⟨index, after⟩
  rw [walked] at walk
  cases index with
  | some index => exact walk
  | none => exact kept.segment none "" .type walk

theorem answer (kept : Kept property) (request : Request) (start : property interner.table) :
    property (interner.answer request).2.table := by
  cases request with
  | text content => exact kept.string content start
  | type name =>
      cases name with
      | within package classPath => exact kept.classIn package classPath start
      | full name =>
          simp only [Interner.answer, className]
          split
          · exact kept.classIn _ _ start
          · exact kept.classIn _ _ start

theorem serve (kept : Kept property) (requests : List Request)
    (start : property interner.table) : property (interner.serve requests).2.table := by
  induction requests generalizing interner with
  | nil => exact start
  | cons request rest ih =>
      rw [serve_cons]
      apply ih
      exact kept.answer request start

end Kept

/-- Tables grow at their ends only. -/
theorem kept_extends (table : NameTable) : Kept (·.Extends table) where
  string text extends_ := (string_extends _ text).trans extends_
  segment parent text kind extends_ := (segment_extends _ parent text kind).trans extends_

theorem path_extends (interner : Interner) (parent : Option UInt32) (segments : List Segment) :
    (interner.path parent segments).2.table.Extends interner.table :=
  (kept_extends interner.table).path parent segments (.refl _)

theorem serve_extends (interner : Interner) (requests : List Request) :
    (interner.serve requests).2.table.Extends interner.table :=
  (kept_extends interner.table).serve requests (.refl _)

/-! ## Meaning -/

theorem getElem?_place {α : Type} [DecidableEq α] {items : List α} {item : α}
    (small : (place items item).2.length < indexBound) :
    (place items item).2[(place items item).1.toNat]? = some item := by
  -- An index is its position, because there are not too many of them.
  have position {count : Nat} (below : count < indexBound) :
      (UInt32.ofNat count).toNat = count :=
    UInt32.toNat_ofNat_of_lt' below
  rw [place] at small ⊢
  cases found : items.idxOf? item with
  | some index =>
      rw [found] at small
      obtain ⟨inside, same, -⟩ := List.idxOf?_eq_some_iff.mp found
      dsimp only at small ⊢
      rw [position (Nat.lt_trans inside small), List.getElem?_eq_getElem inside, same]
  | none =>
      rw [found] at small
      dsimp only at small ⊢
      rw [List.length_append] at small
      rw [position (Nat.lt_of_le_of_lt (Nat.le_add_right _ _) small), List.getElem?_concat_length]

variable {interner : Interner} {parent : Option UInt32} {outer : List Segment}

theorem string_ordered (ordered : interner.table.Ordered) (text : String) :
    (interner.string text).2.table.Ordered := ⟨ordered.before⟩

/-- A new entry goes behind that of its enclosing name. -/
theorem segment_ordered (ordered : interner.table.Ordered)
    (chain : interner.table.Chain parent outer) (text : String) (kind : SegmentKind) :
    (interner.segment parent text kind).2.table.Ordered where
  before := by
    intro position entry enclosing found enclosed
    simp only [segment, place, string] at found
    split at found
    next => exact ordered.before found enclosed
    next =>
      rw [List.getElem?_append] at found
      split at found
      next inside => exact ordered.before found enclosed
      next outside =>
        rw [List.getElem?_singleton] at found
        split at found
        next =>
          cases found
          cases enclosed
          exact Nat.lt_of_lt_of_le chain.lt_length (Nat.not_lt.mp outside)
        next => cases found

theorem segment_chain (chain : interner.table.Chain parent outer) {text : String}
    {kind : SegmentKind} (small : (interner.segment parent text kind).2.table.Small) :
    (interner.segment parent text kind).2.table.Chain (some (interner.segment parent text kind).1)
      (outer ++ [⟨kind, text⟩]) := by
  have found := getElem?_place small.qualified
  have spelled := getElem?_place small.strings
  have enclosed := chain.mono (interner.segment_extends parent text kind)
  exact @NameTable.Chain.inside _ _ ⟨parent, _, kind⟩ text outer found spelled enclosed

theorem path_chain (segments : List Segment) (ordered : interner.table.Ordered)
    (chain : interner.table.Chain parent outer)
    (small : (interner.path parent segments).2.table.Small) :
    (interner.path parent segments).2.table.Ordered ∧
      (interner.path parent segments).2.table.Chain (interner.path parent segments).1
        (outer ++ segments) := by
  induction segments generalizing interner parent outer with
  | nil =>
      rw [List.append_nil]
      exact ⟨ordered, chain⟩
  | cons first rest ih =>
      rw [path_cons] at small ⊢
      have firstSmall := small.of_extends (path_extends _ _ rest)
      obtain ⟨restOrdered, restChain⟩ :=
        ih (segment_ordered ordered chain first.text first.kind) (segment_chain chain firstSmall)
          small
      rw [List.append_assoc] at restChain
      exact ⟨restOrdered, restChain⟩

/-- The index of a class is that of its segments. -/
theorem classIn_chain (package classPath : String) (ordered : interner.table.Ordered)
    (small : (interner.classIn package classPath).2.table.Small) :
    (interner.classIn package classPath).2.table.Ordered ∧
      (interner.classIn package classPath).2.table.Chain
        (some (interner.classIn package classPath).1)
        (ClassName.segmentsWithin package classPath) := by
  have walk := path_chain (classSegments package classPath) ordered .root
  rw [ClassName.segmentsWithin]
  rw [classIn] at small ⊢
  rcases walked : interner.path none (classSegments package classPath) with ⟨index, after⟩
  rw [walked] at walk small
  cases index with
  | some index =>
      obtain ⟨ordered, chain⟩ := walk small
      cases segments : classSegments package classPath with
      | nil =>
          rw [segments] at walked
          cases walked
      | cons first rest =>
          rw [segments] at chain
          exact ⟨ordered, chain⟩
  | none =>
      obtain ⟨ordered, chain⟩ := walk (small.of_extends (after.segment_extends none "" .type))
      cases segments : classSegments package classPath with
      | nil => exact ⟨segment_ordered ordered .root "" .type, segment_chain .root small⟩
      | cons first rest =>
          rw [segments] at chain
          cases chain

end Interner

/-- What an index stands for that answers a request. -/
inductive NameTable.Resolves (table : NameTable) : Request → UInt32 → Prop
  | text {content : String} {index : UInt32}
      (found : table.strings[index.toNat]? = some content) : Resolves table (.text content) index
  | type {name : ClassName} {index : UInt32}
      (chain : table.Chain (some index) name.segments) : Resolves table (.type name) index

theorem NameTable.Resolves.mono {table later : NameTable} {request : Request} {index : UInt32}
    (resolves : table.Resolves request index) (extends_ : later.Extends table) :
    later.Resolves request index := by
  cases resolves with
  | text found => exact .text (getElem?_of_begins extends_.strings found)
  | type chain => exact .type (chain.mono extends_)

/-- A table in which every answer stands for what was asked for. -/
structure NameTable.Serves (table : NameTable) (answers : List (Request × UInt32)) : Prop where
  ordered : table.Ordered
  resolves : ∀ {request : Request} {index : UInt32}, (request, index) ∈ answers →
    table.Resolves request index

namespace Interner

variable {interner : Interner}

/-- A class that is asked for stands for the segments of the package and path it is found
under. -/
theorem answer_type_resolves {name : ClassName} {package classPath : String}
    (served : interner.answer (.type name) = interner.classIn package classPath)
    (segments : name.segments = ClassName.segmentsWithin package classPath)
    (ordered : interner.table.Ordered) (small : (interner.answer (.type name)).2.table.Small) :
    (interner.answer (.type name)).2.table.Ordered ∧
      (interner.answer (.type name)).2.table.Resolves (.type name)
        (interner.answer (.type name)).1 := by
  rw [served] at small ⊢
  obtain ⟨ordered, chain⟩ := classIn_chain package classPath ordered small
  rw [← segments] at chain
  exact ⟨ordered, .type chain⟩

theorem answer_resolves (request : Request) (ordered : interner.table.Ordered)
    (small : (interner.answer request).2.table.Small) :
    (interner.answer request).2.table.Ordered ∧
      (interner.answer request).2.table.Resolves request (interner.answer request).1 := by
  cases request with
  | text content =>
      exact ⟨string_ordered ordered content, .text (getElem?_place small.strings)⟩
  | type name =>
      cases name with
      | within package classPath =>
          have served : interner.answer (.type (.within package classPath)) =
            interner.classIn package classPath := rfl
          exact answer_type_resolves served rfl ordered small
      | full name =>
          cases split : Text.splitLast name with
          | some halves =>
              have served : interner.answer (.type (.full name)) =
                  interner.classIn halves.1 halves.2 := by
                rw [answer, className, split]
              apply answer_type_resolves served _ ordered small
              rw [ClassName.segments, split]
          | none =>
              have served : interner.answer (.type (.full name)) = interner.classIn "" name := by
                rw [answer, className, split]
              apply answer_type_resolves served _ ordered small
              rw [ClassName.segments, split]

/-- Every answer stands for what was asked for, also after later requests. -/
theorem serve_serves (requests : List Request) (ordered : interner.table.Ordered)
    (small : (interner.serve requests).2.table.Small) :
    (interner.serve requests).2.table.Serves (interner.serve requests).1 := by
  induction requests generalizing interner with
  | nil => exact ⟨ordered, nofun⟩
  | cons first rest ih =>
      rw [serve_cons] at small ⊢
      have grown := (interner.answer first).2.serve_extends rest
      obtain ⟨ordered, resolves⟩ := answer_resolves first ordered (small.of_extends grown)
      obtain ⟨ordered, restResolve⟩ := ih ordered small
      refine ⟨ordered, ?_⟩
      intro request index member
      rcases List.mem_cons.mp member with same | later
      · cases same
        exact resolves.mono grown
      · exact restResolve later

theorem empty_ordered : Interner.empty.table.Ordered := ⟨nofun⟩

end Interner

end RecordDerive.Metadata
