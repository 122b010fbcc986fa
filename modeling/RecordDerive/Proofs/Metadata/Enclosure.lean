import RecordDerive.Proofs.Metadata.Sharing
import RecordDerive.Proofs.Text.Segments

/-!
# What encloses what in an interner's table

A name table from outside may put a package inside a class, or leave a segment unnamed.  An
interner does neither: whatever it is asked for, every entry of its table is a package or a
class whose way up leads through classes to packages and through packages to the outside, all
of them named, or it is the unnamed class that stands for a name without segments.
-/

namespace RecordDerive.Metadata

/-! ## Tidy segments -/

/-- The texts of the segments of one kind. -/
def Segment.textsOf (kind : SegmentKind) (segments : List Segment) : List String :=
  (segments.filter (·.kind = kind)).map (·.text)

/-- Named packages with named classes inside them, or a class without a name. -/
def Segment.Tidy (segments : List Segment) : Prop :=
  (∃ packages classes : List String,
    segments = packages.map (⟨.package, ·⟩) ++ classes.map (⟨.type, ·⟩) ∧
      ∀ text ∈ packages ++ classes, text ≠ "") ∨
  segments = [⟨.type, ""⟩]

namespace Segment

@[simp] theorem textsOf_append (kind : SegmentKind) (outer inner : List Segment) :
    textsOf kind (outer ++ inner) = textsOf kind outer ++ textsOf kind inner := by
  rw [textsOf, List.filter_append, List.map_append]
  rfl

@[simp] theorem textsOf_map (kind : SegmentKind) (texts : List String) :
    textsOf kind (texts.map (⟨kind, ·⟩)) = texts := by
  induction texts with
  | nil => rfl
  | cons first rest ih => cases kind <;> exact congrArg (first :: ·) ih

theorem textsOf_map_of_ne {kind other : SegmentKind} (apart : other ≠ kind) (texts : List String) :
    textsOf kind (texts.map (⟨other, ·⟩)) = [] := by
  induction texts with
  | nil => rfl
  | cons first rest ih =>
      rw [textsOf, List.map_cons, List.filter_cons_of_neg (by simpa using apart)]
      exact ih

/-- Packages stand before classes in tidy segments. -/
theorem Tidy.textsOf_append_textsOf {segments : List Segment} (tidy : Tidy segments) :
    textsOf .package segments ++ textsOf .type segments = segments.map (·.text) := by
  rcases tidy with ⟨packages, classes, rfl, -⟩ | rfl
  · simp [textsOf_map_of_ne, Function.comp_def]
  · decide

/-- Tidy segments do not consist of an unnamed package and what is inside it. -/
theorem Tidy.textsOf_package_ne {segments : List Segment} (tidy : Tidy segments) :
    textsOf .package segments ≠ [""] := by
  rcases tidy with ⟨packages, classes, rfl, full⟩ | rfl
  · intro unnamed
    rw [textsOf_append, textsOf_map, textsOf_map_of_ne (by decide), List.append_nil] at unnamed
    rw [unnamed] at full
    exact full "" List.mem_cons_self rfl
  · decide

/-- The names that enclose a class of a package are tidy, and so is the class. -/
theorem tidy_of_prefix {package classPath : String} {front : List Segment}
    (within : front <+: Interner.classSegments package classPath) : Tidy front := by
  let outer := (Text.segments package).take front.length
  let inner := (Text.segments classPath).take (front.length - (Text.segments package).length)
  refine .inl ⟨outer, inner, (List.prefix_iff_eq_take.mp within).trans ?_, ?_⟩
  · rw [Interner.classSegments, List.take_append, List.length_map, ← List.map_take,
      ← List.map_take]
  · intro text listed
    rcases List.mem_append.mp listed with listed | listed
    · exact Text.ne_empty_of_mem_segments (List.mem_of_mem_take listed)
    · exact Text.ne_empty_of_mem_segments (List.mem_of_mem_take listed)

end Segment

/-! ## Tidy tables -/

namespace NameTable

/-- Every entry of a table has tidy segments. -/
structure Tidy (table : NameTable) : Prop where
  chain : ∀ {index : UInt32}, index.toNat < table.qualified.length →
    ∃ segments, table.Chain (some index) segments ∧ Segment.Tidy segments

theorem empty_tidy : NameTable.empty.Tidy := ⟨fun inside => absurd inside (Nat.not_lt_zero _)⟩

/-- The segments that an entry of a tidy table resolves to are tidy. -/
theorem Tidy.segments {table : NameTable} (tidy : table.Tidy) {index : UInt32}
    {segments : List Segment} (resolved : table.Chain (some index) segments) :
    Segment.Tidy segments := by
  obtain ⟨segments', chain, good⟩ := tidy.chain resolved.lt_length
  rw [resolved.segments_unique chain]
  exact good

end NameTable

namespace Interner

/-- What is in a list after an item was placed was there before or is the item. -/
theorem lt_or_eq_of_lt_place {α : Type} [DecidableEq α] {items : List α} {item : α}
    {index : UInt32} (inside : index.toNat < (place items item).2.length) :
    index.toNat < items.length ∨ index = (place items item).1 := by
  rw [place] at inside ⊢
  cases found : items.idxOf? item with
  | some known =>
      rw [found] at inside
      exact .inl inside
  | none =>
      rw [found] at inside
      rw [List.length_append, List.length_singleton] at inside
      rcases Nat.lt_succ_iff_lt_or_eq.mp inside with before | last
      · exact .inl before
      · refine .inr ?_
        dsimp only
        rw [← last, UInt32.ofNat_toNat]

variable {interner : Interner} {parent : Option UInt32} {outer : List Segment}

theorem segment_tidy (tidy : interner.table.Tidy) (chain : interner.table.Chain parent outer)
    {text : String} {kind : SegmentKind}
    (small : (interner.segment parent text kind).2.table.Small)
    (good : Segment.Tidy (outer ++ [⟨kind, text⟩])) :
    (interner.segment parent text kind).2.table.Tidy where
  chain := by
    intro index inside
    rcases lt_or_eq_of_lt_place inside with before | rfl
    · obtain ⟨segments, found, good⟩ := tidy.chain before
      exact ⟨segments, found.mono (interner.segment_extends parent text kind), good⟩
    · exact ⟨_, segment_chain chain small, good⟩

/-- A path is tidy if each of its segments is with those before it. -/
theorem path_tidy (segments : List Segment) (tidy : interner.table.Tidy)
    (chain : interner.table.Chain parent outer)
    (small : (interner.path parent segments).2.table.Small)
    (good : ∀ front, front <+: segments → front ≠ [] → Segment.Tidy (outer ++ front)) :
    (interner.path parent segments).2.table.Tidy := by
  induction segments generalizing interner parent outer with
  | nil => exact tidy
  | cons first rest ih =>
      rw [path_cons] at small ⊢
      have firstSmall := small.of_extends (path_extends _ _ rest)
      have here : Segment.Tidy (outer ++ [first]) :=
        good [first] ⟨rest, rfl⟩ (List.cons_ne_nil first [])
      refine ih (segment_tidy tidy chain firstSmall here) (segment_chain chain firstSmall) small ?_
      intro front within _
      rw [List.append_assoc]
      exact good (first :: front) (List.cons_prefix_cons.mpr ⟨rfl, within⟩)
        (List.cons_ne_nil first front)

theorem classIn_tidy (package classPath : String) (tidy : interner.table.Tidy)
    (small : (interner.classIn package classPath).2.table.Small) :
    (interner.classIn package classPath).2.table.Tidy := by
  have walk := path_tidy (classSegments package classPath) tidy .root
  rw [classIn] at small ⊢
  rcases walked : interner.path none (classSegments package classPath) with ⟨index, after⟩
  rw [walked] at walk small
  have good : ∀ front, front <+: classSegments package classPath → front ≠ [] →
      Segment.Tidy ([] ++ front) := fun front within _ => Segment.tidy_of_prefix within
  cases index with
  | some index => exact walk small good
  | none =>
      have before := small.of_extends (after.segment_extends none "" .type)
      exact segment_tidy (walk before good) .root small (.inr rfl)

theorem answer_tidy (request : Request) (tidy : interner.table.Tidy)
    (small : (interner.answer request).2.table.Small) :
    (interner.answer request).2.table.Tidy := by
  cases request with
  | text content =>
      refine ⟨fun inside => ?_⟩
      obtain ⟨segments, found, good⟩ := tidy.chain inside
      exact ⟨segments, found.mono (interner.string_extends content), good⟩
  | type name =>
      cases name with
      | within package classPath => exact classIn_tidy package classPath tidy small
      | full name =>
          rw [answer, className] at small ⊢
          split at small
          next package last found => exact classIn_tidy package last tidy small
          next found => exact classIn_tidy "" name tidy small

/-- Every entry of an interner's table has tidy segments. -/
theorem serve_tidy (requests : List Request) (tidy : interner.table.Tidy)
    (small : (interner.serve requests).2.table.Small) :
    (interner.serve requests).2.table.Tidy := by
  induction requests generalizing interner with
  | nil => exact tidy
  | cons first rest ih =>
      rw [serve_cons] at small ⊢
      have grown := (interner.answer first).2.serve_extends rest
      exact ih (answer_tidy first tidy (small.of_extends grown)) small

end Interner

end RecordDerive.Metadata
