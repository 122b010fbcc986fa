import RecordDerive.Proofs.Metadata.Interning

/-!
# What interners keep only once

An interner puts nothing into its tables that is there already.  So an entry is told by its
segments: names with the same segments climb through the same entries.  An interner asked
twice answers with the same index exactly if it was asked for the same thing, and what its
answers stood for when they were given they stand for in the finished table.
-/

namespace RecordDerive.Metadata

/-! ## Tables without repetition -/

/-- An index is told by what stands there in a list without repetition. -/
theorem index_eq_of_getElem? {α : Type} {items : List α} (distinct : items.Nodup)
    {first second : UInt32} {item : α} (found : items[first.toNat]? = some item)
    (found' : items[second.toNat]? = some item) : first = second := by
  obtain ⟨inside, -⟩ := List.getElem?_eq_some_iff.mp found
  apply UInt32.toNat_inj.mp
  exact (List.getElem?_inj inside distinct).mp (found.trans found'.symm)

namespace NameTable

/-- A table in which nothing stands twice. -/
structure Distinct (table : NameTable) : Prop where
  strings : table.strings.Nodup
  qualified : table.qualified.Nodup

variable {table : NameTable} {index index' : Option UInt32} {segments segments' : List Segment}

/-- In a table without repetition an entry is told by its segments. -/
theorem Chain.index_unique (distinct : table.Distinct) (chain : table.Chain index segments)
    (chain' : table.Chain index' segments) : index = index' := by
  induction chain generalizing index' with
  | root =>
      generalize same : ([] : List Segment) = segments at chain'
      cases chain' with
      | root => rfl
      | inside found spelled enclosed => simp at same
  | @inside index entry text outer found spelled enclosed ih =>
      generalize same : outer ++ [⟨entry.kind, text⟩] = segments at chain'
      cases chain' with
      | root => simp at same
      | @inside index' entry' text' outer' found' spelled' enclosed' =>
          obtain ⟨rfl, last⟩ := List.append_inj' same rfl
          simp only [List.cons.injEq, Segment.mk.injEq, and_true] at last
          obtain ⟨kinds, rfl⟩ := last
          have parents : entry.parent = entry'.parent := ih enclosed'
          have shorts : entry.short = entry'.short :=
            index_eq_of_getElem? distinct.strings spelled spelled'
          have entries : entry = entry' := by
            cases entry
            cases entry'
            simp_all
          rw [← entries] at found'
          exact congrArg some (index_eq_of_getElem? distinct.qualified found found')

/-- An entry has one chain of segments. -/
theorem Chain.segments_unique (chain : table.Chain index segments)
    (chain' : table.Chain index segments') : segments = segments' := by
  induction chain generalizing segments' with
  | root =>
      cases chain' with
      | root => rfl
  | inside found spelled enclosed ih =>
      cases chain' with
      | inside found' spelled' enclosed' =>
          rw [found] at found'
          cases found'
          rw [spelled] at spelled'
          cases spelled'
          rw [ih enclosed']

theorem empty_distinct : NameTable.empty.Distinct := ⟨List.nodup_nil, List.nodup_nil⟩

end NameTable

/-! ## Interners -/

namespace Interner

theorem nodup_place {α : Type} [DecidableEq α] {items : List α} (distinct : items.Nodup)
    (item : α) : (place items item).2.Nodup := by
  rw [place]
  cases found : items.idxOf? item with
  | some index => exact distinct
  | none =>
      rw [List.idxOf?_eq_none_iff] at found
      apply List.nodup_append.mpr
      refine ⟨distinct, List.pairwise_singleton _ item, ?_⟩
      intro known member last single
      rw [List.mem_singleton.mp single]
      rintro rfl
      exact found member

theorem kept_distinct : Kept NameTable.Distinct where
  string text distinct := ⟨nodup_place distinct.strings text, distinct.qualified⟩
  segment _ text _ distinct :=
    ⟨nodup_place distinct.strings text, nodup_place distinct.qualified _⟩

theorem serve_append (interner : Interner) (earlier later : List Request) :
    interner.serve (earlier ++ later) =
      ((interner.serve earlier).1 ++ ((interner.serve earlier).2.serve later).1,
        ((interner.serve earlier).2.serve later).2) := by
  induction earlier generalizing interner with
  | nil => rfl
  | cons request rest ih =>
      rw [List.cons_append, serve_cons, serve_cons, ih]
      rfl

theorem serve_requests (interner : Interner) (requests : List Request) :
    (interner.serve requests).1.map (·.1) = requests := by
  induction requests generalizing interner with
  | nil => rfl
  | cons request rest ih =>
      rw [serve_cons, List.map_cons, ih]

end Interner

/-! ## Requests and answers -/

namespace NameTable

/-- A table in which answers stand for what was asked for, and are the same where the same
was asked for. -/
structure Interns (table : NameTable) (answers : List (Request × UInt32)) : Prop where
  string : ∀ {text index}, (.text text, index) ∈ answers → table.string index = .ok text
  segments : ∀ {name index}, (.type name, index) ∈ answers →
    table.segments index = .ok name.segments
  texts : ∀ {text text' index index'}, (.text text, index) ∈ answers →
    (.text text', index') ∈ answers → (index = index' ↔ text = text')
  types : ∀ {name name' index index'}, (.type name, index) ∈ answers →
    (.type name', index') ∈ answers → (index = index' ↔ name.segments = name'.segments)
  distinct : table.Distinct

variable {table : NameTable} {answers : List (Request × UInt32)}

theorem Serves.found (serves : table.Serves answers) {text : String} {index : UInt32}
    (member : (.text text, index) ∈ answers) : table.strings[index.toNat]? = some text := by
  cases serves.resolves member with
  | text found => exact found

theorem Serves.chain (serves : table.Serves answers) {name : ClassName} {index : UInt32}
    (member : (.type name, index) ∈ answers) : table.Chain (some index) name.segments := by
  cases serves.resolves member with
  | type chain => exact chain

/-- Without repetition, serving is interning. -/
theorem Serves.interns (serves : table.Serves answers) (distinct : table.Distinct) :
    table.Interns answers where
  string member := by rw [NameTable.string, serves.found member]
  segments member := (serves.chain member).segments_eq serves.ordered
  texts member member' := by
    have found := serves.found member
    have found' := serves.found member'
    constructor
    · rintro rfl
      exact Option.some.inj (found.symm.trans found')
    · rintro rfl
      exact index_eq_of_getElem? distinct.strings found found'
  types member member' := by
    have chain := serves.chain member
    have chain' := serves.chain member'
    constructor
    · rintro rfl
      exact chain.segments_unique chain'
    · intro same
      rw [same] at chain
      exact Option.some.inj (chain.index_unique distinct chain')
  distinct := distinct

end NameTable

namespace Interner

theorem empty_interns {requests : List Request}
    (small : (Interner.empty.serve requests).2.table.Small) :
    (Interner.empty.serve requests).2.table.Interns (Interner.empty.serve requests).1 :=
  (serve_serves requests empty_ordered small).interns
    (kept_distinct.serve requests NameTable.empty_distinct)

/-- An interner answers every request with an index that stands for what was asked for, at
once and in the finished table, and gives two requests the same index exactly if they ask for
the same. -/
theorem serve_interns (requests : List Request)
    (small : (Interner.empty.serve requests).2.table.Small) :
    let answers := (Interner.empty.serve requests).1
    let table := (Interner.empty.serve requests).2.table
    answers.map (·.1) = requests ∧ table.Interns answers ∧
      ∀ earlier, earlier <+: requests →
        (Interner.empty.serve earlier).1 <+: answers ∧
        table.Extends (Interner.empty.serve earlier).2.table ∧
        (Interner.empty.serve earlier).2.table.Interns (Interner.empty.serve earlier).1 := by
  intro answers table
  refine ⟨serve_requests _ requests, empty_interns small, ?_⟩
  rintro earlier ⟨later, rfl⟩
  have grown : table.Extends (Interner.empty.serve earlier).2.table := by
    simp only [table, serve_append]
    exact serve_extends _ later
  refine ⟨?_, grown, empty_interns (small.of_extends grown)⟩
  simp only [answers, serve_append]
  exact List.prefix_append _ _

/-- Classes that share a package, a string that is a segment as well, and a class without
segments. -/
theorem serve_interns_points :
    let requests : List Request := [.type (.full "geo::shapes::Point"), .text "geo",
      .type (.within "geo::" "Outer::Inner"), .type (.within "::" ""), .text "",
      .type (.within "geo" "shapes::Point"), .type (.full "geo::::shapes::Point")]
    (Interner.empty.serve requests).2.table.Small ∧
      (Interner.empty.serve requests).1.map (·.2) = [2, 0, 4, 5, 5, 7, 2] ∧
      (Interner.empty.serve requests).2.table.Interns (Interner.empty.serve requests).1 := by
  intro requests
  have small : (Interner.empty.serve requests).2.table.Small := by
    constructor <;> decide
  exact ⟨small, by decide, (serve_interns requests small).2.1⟩

end Interner

end RecordDerive.Metadata
