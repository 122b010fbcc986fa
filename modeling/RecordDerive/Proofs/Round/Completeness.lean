import Mathlib.Data.List.Nodup
import RecordDerive.Proofs.Declaration.WellFormed
import RecordDerive.Proofs.Output.Delivery
import RecordDerive.Proofs.Round.Session

/-!
# Well-formed classes get their files

A host registers the descriptions of some classes and presents all handles in one final
round.  If the descriptions are well formed and can be stored, and no two of them are for
the same package and class, then nothing on the way from the metadata to the writer turns
any of them away: each is recorded and has its file, and nothing is reported.
-/

namespace RecordDerive

open Code (Artifact PlainDeclaration render)
open Ledger (handles find? put)
open Metadata
open Output (Memory)

/-! ## Registering -/

namespace Registry

/-- Hold descriptions one after the other. -/
def registerAll (registry : Registry) :
    List Description → Except Fault (List DeclarationId × Registry)
  | [] => .ok ([], registry)
  | description :: rest => do
    let (id, next) ← registry.register description
    let (ids, last) ← next.registerAll rest
    return (id :: ids, last)

theorem toNat_push_number {registry : Registry} (room : registry.entries.length < indexBound)
    (entry : RegistryEntry) :
    (registry.push entry).1.number.toNat = registry.entries.length :=
  UInt32.toNat_ofNat_of_lt' room

/-- Descriptions whose names resolve are registered under successive numbers, and what a
registry holds already stays as it is. -/
theorem exists_registerAll (registry : Registry) {descriptions : List Description}
    (room : registry.entries.length + descriptions.length ≤ indexBound)
    (named : ∀ description ∈ descriptions, ∃ label,
      description.names.qualifiedName description.name = .ok label) :
    ∃ ids last more, registry.registerAll descriptions = .ok (ids, last) ∧
      last.entries = registry.entries ++ more ∧
      ids.map (·.number.toNat) = List.range' registry.entries.length descriptions.length ∧
      List.Forall₂ (fun id description => ∃ label,
        Registry.entry? last id = some ⟨label, some description.encode⟩) ids descriptions := by
  induction descriptions generalizing registry with
  | nil => exact ⟨[], registry, [], rfl, (List.append_nil _).symm, rfl, .nil⟩
  | cons description rest ih =>
      obtain ⟨⟨label, here⟩, later⟩ := List.forall_mem_cons.mp named
      rw [List.length_cons] at room
      let entry : RegistryEntry := ⟨label, some description.encode⟩
      have number : (registry.push entry).1.number.toNat = registry.entries.length :=
        toNat_push_number (by omega) entry
      have longer : (registry.push entry).2.entries = registry.entries ++ [entry] := rfl
      have length : (registry.push entry).2.entries.length = registry.entries.length + 1 := by
        rw [longer, List.length_append, List.length_singleton]
      have registered : registry.register description =
          .ok ((registry.push entry).1, (registry.push entry).2) := by
        rw [register, here]
        rfl
      obtain ⟨ids, last, more, all, grown, numbers, held⟩ :=
        ih (registry.push entry).2 (by omega) later
      rw [longer, List.append_assoc, List.singleton_append] at grown
      refine ⟨(registry.push entry).1 :: ids, last, entry :: more, ?_, grown, ?_,
        .cons ⟨label, ?_⟩ held⟩
      · rw [registerAll, registered]
        simp only [bind, Except.bind, all]
        rfl
      · rw [List.map_cons, numbers, number, length, List.length_cons, List.range'_succ]
      · rw [ entry?, number, grown]
        simp [entry]

/-- A registry describes what it holds under handles that differ. -/
structure Holds (registry : Registry) (ids : List DeclarationId)
    (descriptions : List Description) : Prop where
  distinct : ids.Nodup
  each : List.Forall₂ (fun id description => registry.describe id = .ok description) ids
    descriptions

/-- Descriptions that can be stored are described again after all of them are
registered. -/
theorem exists_holds {descriptions : List Description}
    (room : descriptions.length ≤ indexBound)
    (named : ∀ description ∈ descriptions, ∃ label,
      description.names.qualifiedName description.name = .ok label)
    (recoverable : ∀ description ∈ descriptions, description.Recoverable .current) :
    ∃ ids registry, Registry.empty.registerAll descriptions = .ok (ids, registry) ∧
      registry.Holds ids descriptions := by
  obtain ⟨ids, registry, -, registered, -, numbers, held⟩ :=
    exists_registerAll .empty (by simpa [empty] using room) named
  refine ⟨ids, registry, registered, ?_, ?_⟩
  · apply List.Nodup.of_map (·.number.toNat)
    rw [numbers]
    exact List.nodup_range'
  · clear room named registered numbers
    induction held with
    | nil => exact .nil
    | cons head tail ih =>
        obtain ⟨label, found⟩ := head
        obtain ⟨here, later⟩ := List.forall_mem_cons.mp recoverable
        refine .cons ?_ (ih later)
        rw [describe, found]
        exact Description.decode_of_recoverable here

end Registry

/-! ## Gathering -/

section Gather

variable {H : Type} [DecidableEq H] {source : Source H} {ids : List H}
  {declarations : List (Declaration H)}

/-- What is accepted under new handles is recorded in their order, and nothing is reported. -/
theorem Tally.foldl_present
    (accepted : List.Forall₂ (fun id declaration => source.accept id = .ok declaration) ids
      declarations)
    (distinct : ids.Nodup) (tally : Tally H)
    (new : ∀ id ∈ ids, id ∉ handles tally.declarations) :
    ids.foldl (Tally.present source) tally =
      { declarations := tally.declarations ++ declarations
        diagnostics := tally.diagnostics
        outcome := { tally.outcome with
          recorded := tally.outcome.recorded + declarations.length } } := by
  induction accepted generalizing tally with
  | nil => simp
  | @cons id declaration ids declarations here later ih =>
      obtain ⟨apart, distinct⟩ := List.nodup_cons.mp distinct
      obtain ⟨unknown, new⟩ := List.forall_mem_cons.mp new
      have named : declaration.handle = id := (Source.accept_eq_ok here).2.1
      rw [← named] at unknown
      have presented : tally.present source id =
          { declarations := tally.declarations ++ [declaration]
            diagnostics := tally.diagnostics
            outcome := { tally.outcome with recorded := tally.outcome.recorded + 1 } } := by
        rw [Tally.present, here]
        simp only [Ledger.put_of_not_mem unknown, Ledger.find?_eq_none unknown, Ledger.recorded,
          Tally.noted]
      have others : ∀ other ∈ ids, other ∉ handles (tally.declarations ++ [declaration]) := by
        intro other member known
        rw [Ledger.handles_append, List.mem_append] at known
        rcases known with before | last
        · exact new other member before
        · rw [Ledger.handles_cons, Ledger.handles_nil, List.mem_singleton, named] at last
          exact apart (last ▸ member)
      rw [List.foldl_cons, presented, ih distinct _ others]
      simp [Nat.add_assoc, Nat.add_comm]

/-- The tally of a round over accepted declarations that differ. -/
theorem Tally.ofRound_accepted
    (accepted : List.Forall₂ (fun id declaration => source.accept id = .ok declaration) ids
      declarations)
    (distinct : ids.Nodup) :
    Tally.ofRound source [] ids =
      ⟨declarations, .empty, { recorded := declarations.length }⟩ := by
  rw [Tally.ofRound, Tally.foldl_present accepted distinct _ (by simp)]
  simp

end Gather

/-! ## Classes -/

/-- A class: its description, and the package and class path that its name is interned
for. -/
structure ProductClass where
  package : String
  classPath : String
  description : Description

namespace ProductClass

/-- Whether two classes differ in the segments of their packages or of their class paths. -/
def Differs (first second : ProductClass) : Prop :=
  Text.segments first.package ≠ Text.segments second.package ∨
    Text.segments first.classPath ≠ Text.segments second.classPath

/-- A declaration as it is read from a class. -/
def ReadAs (product : ProductClass) (declaration : Declaration DeclarationId) : Prop :=
  PlainDeclaration (Text.segments product.package) (Text.segments product.classPath) declaration

theorem ReadAs.not_sameSegments {first second : ProductClass}
    {declaration other : Declaration DeclarationId} (read : first.ReadAs declaration)
    (read' : second.ReadAs other) (differs : first.Differs second) :
    ¬declaration.SameSegments other := by
  rintro ⟨package, name⟩
  rw [PlainDeclaration.segments_package read, PlainDeclaration.segments_package read'] at package
  rw [PlainDeclaration.segments_name read, PlainDeclaration.segments_name read'] at name
  exact differs.elim (· package) (· name)

theorem ReadAs.plain {classes : List ProductClass}
    {declarations : List (Declaration DeclarationId)}
    (read : List.Forall₂ ReadAs classes declarations) :
    ∀ declaration ∈ declarations, ∃ packages names,
      PlainDeclaration packages names declaration := by
  induction read with
  | nil => exact List.forall_mem_nil _
  | cons head tail ih => exact List.forall_mem_cons.mpr ⟨⟨_, _, head⟩, ih⟩

end ProductClass

/-- Well-formed classes that a registry describes are accepted, one declaration each. -/
theorem Registry.Holds.exists_accepted {registry : Registry} {ids : List DeclarationId}
    {classes : List ProductClass}
    (holds : registry.Holds ids (classes.map (·.description)))
    (wellFormed : ∀ product ∈ classes,
      product.description.WellFormed product.package product.classPath) :
    ∃ declarations,
      List.Forall₂ (fun id declaration => registry.source.accept id = .ok declaration) ids
        declarations ∧
      List.Forall₂ ProductClass.ReadAs classes declarations := by
  obtain ⟨-, each⟩ := holds
  induction classes generalizing ids with
  | nil =>
      cases each
      exact ⟨[], .nil, .nil⟩
  | cons product classes ih =>
      obtain ⟨here, later⟩ := List.forall_mem_cons.mp wellFormed
      rw [List.map_cons] at each
      cases each with
      | cons described rest =>
          obtain ⟨declaration, accepted, plain⟩ :=
            @Description.WellFormed.exists_accept _ _ _ here _ registry.source _ described
          obtain ⟨declarations, all, read⟩ := ih later rest
          exact ⟨declaration :: declarations, .cons accepted all, .cons plain read⟩

/-! ## Rounds -/

namespace Processor

/-- What a final round comes to where everything presented has its file: all handles are
counted as recorded and none as failed, nothing is reported, and the memory holds a file for
each of them, at paths that differ. -/
structure Serves (report : Report DeclarationId Memory) (source : Source DeclarationId)
    (ids : List DeclarationId) (files : List Artifact) : Prop where
  outcome : report.outcome = .ok
    { recorded := ids.length, failed := 0, generated := some (files.map (·.target)) }
  silent : report.diagnostics.all = []
  filed : List.Forall₂ (fun id file => ∃ declaration,
    source.accept id = .ok declaration ∧ render declaration {} = .ok file) ids files
  held : report.processor.writer.files.Perm files
  apart : files.Pairwise fun first second => first.target.same second.target = false

theorem forall₂_through {α β γ : Type} {first : α → β → Prop} {second : β → γ → Prop}
    {items : List α} {between : List β} {results : List γ}
    (left : List.Forall₂ first items between) (right : List.Forall₂ second between results) :
    List.Forall₂ (fun item result => ∃ middle, first item middle ∧ second middle result) items
      results := by
  induction left generalizing results with
  | nil =>
      cases right
      exact .nil
  | @cons item middle items between here later ih =>
      cases right with
      | cons there rest => exact .cons ⟨middle, here, there⟩ (ih rest)

/-- A final round over accepted declarations that all have files. -/
theorem onRound_serves {source : Source DeclarationId} {ids : List DeclarationId}
    {declarations : List (Declaration DeclarationId)} {files : List Artifact}
    {generation : Code.Generation} (distinct : ids.Nodup)
    (accepted : List.Forall₂ (fun id declaration => source.accept id = .ok declaration) ids
      declarations)
    (rendered : List.Forall₂ (fun declaration file => render declaration {} = .ok file)
      declarations files)
    (generated : Code.generate declarations {} = .ok generation)
    (artifacts : generation.artifacts = files) (complete : generation.failures = []) :
    ∃ report, (Processor.new Memory.empty {}).onRound source ids true = .ok report ∧
      Serves report source ids files := by
  let fresh : Processor DeclarationId Memory := .new .empty {}
  have collects : fresh.accumulator.Collects [] := .empty
  have apart := Code.apart_of_generate generated
  rw [artifacts] at apart
  obtain ⟨reached, delivered, held⟩ :=
    @Output.Memory.deliver_apart files [] .empty (.refl _) apart
  have tally := Tally.ofRound_accepted accepted distinct
  refine ⟨(fresh.gather source ids).close .empty { recorded := declarations.length } generation,
    ?_, ?_⟩
  · rw [onRound_closes collects, tally]
    exact congrArg (Except.map _) generated
  · have taken : Output.deliver generation.artifacts (fresh.gather source ids).writer =
        (.ok (files.map (·.target)), reached) := by
      rw [artifacts]
      exact delivered
    have length := accepted.length_eq
    rw [close]
    simp only [taken, complete]
    refine ⟨?_, rfl, ?_, held, ?_⟩
    · rw [← length]
      rfl
    · exact forall₂_through accepted rendered
    · exact apart.distinct.imp fun differ => beq_false_of_ne differ

/-- Every well-formed class has its file: registering classes that differ in their packages or
class paths, and presenting all of them in one final round, leaves none of them out. -/
theorem onRound_completes {classes : List ProductClass} (room : classes.length ≤ indexBound)
    (wellFormed : ∀ product ∈ classes,
      product.description.WellFormed product.package product.classPath)
    (recoverable : ∀ product ∈ classes, product.description.Recoverable .current)
    (distinct : classes.Pairwise ProductClass.Differs) :
    ∃ ids registry report files,
      Registry.empty.registerAll (classes.map (·.description)) = .ok (ids, registry) ∧
      registry.Holds ids (classes.map (·.description)) ∧ ids.length = classes.length ∧
      (Processor.new Memory.empty {}).onRound registry.source ids true = .ok report ∧
      Serves report registry.source ids files := by
  obtain ⟨ids, registry, registered, holds⟩ :=
    @Registry.exists_holds (classes.map (·.description)) (by simpa using room)
      (by
        intro description member
        obtain ⟨product, listed, rfl⟩ := List.mem_map.mp member
        exact ⟨_, (wellFormed product listed).qualifiedName⟩)
      (by
        intro description member
        obtain ⟨product, listed, rfl⟩ := List.mem_map.mp member
        exact recoverable product listed)
  obtain ⟨declarations, accepted, read⟩ := holds.exists_accepted wellFormed
  have apart : declarations.Pairwise fun first second => ¬first.SameSegments second := by
    refine Code.pairwise_of_forall₂ ?_ read distinct
    intro first second declaration other read read' differs
    exact ProductClass.ReadAs.not_sameSegments read read' differs
  obtain ⟨files, generation, rendered, generated, artifacts, complete⟩ :=
    Code.exists_generate_of_plain (ProductClass.ReadAs.plain read) apart
  obtain ⟨report, reported, serves⟩ :=
    onRound_serves holds.distinct accepted rendered generated artifacts complete
  have length : ids.length = classes.length := by
    rw [holds.each.length_eq, List.length_map]
  exact ⟨ids, registry, report, files, registered, holds, length, reported, serves⟩

/-! ### Points and lines -/

/-- A line between points, the ends of which may be missing. -/
def line : Description where
  name := 1
  kind := .tupleStruct
  flags := .product
  constructors := [⟨true, [⟨2, .array (.tuple [.named 2 [] true, .named 2 [] false]) 3⟩]⟩]
  names := ⟨["geo", "Line", "0", "Point"],
    [⟨none, 0, .package⟩, ⟨some 0, 1, .type⟩, ⟨some 0, 3, .type⟩]⟩

theorem line_wellFormed : line.WellFormed "geo" "Line" where
  aggregate := rfl
  product := by
    show Flags.product.contains .product = true
    decide
  name := by decide
  named := by decide
  plain := by decide
  constructor := by
    refine ⟨_, rfl, by decide, List.forall_mem_singleton.mpr ⟨⟨"0", rfl, ?_⟩, ?_, ?_⟩⟩
    · exact .position ⟨by decide, List.forall_mem_singleton.mpr rfl⟩ (by decide)
    · have point (nullable : Bool) : PlainReference line.names (.named 2 [] nullable) :=
        @PlainReference.named _ _ [⟨.package, "geo"⟩, ⟨.type, "Point"⟩] _ (by decide) (by decide)
          (by decide) (by simp) nullable
      refine .array (.tuple ?_) 3
      simp only [List.forall_mem_cons]
      exact ⟨point true, point false, List.forall_mem_nil _⟩
    · simp [TypeRef.depth, TypeRef.depthOf, TypeRef.maxDepth]

theorem point_wellFormed {others : List Constructor}
    (passed : ∀ other ∈ others, other.isPrimary = false) :
    (Registry.point others).WellFormed "geo" "Point" := by
  have number (nullable : Bool) : (NamedType.named (.full "i32") [] nullable).Plain :=
    .named (by decide) (by decide) (by simp) nullable
  have small : (Registry.point []).names.Small := ⟨by decide, by decide⟩
  apply (Registry.point_describes passed).wellFormed small (by decide) (by decide) (by decide)
  simp only [Registry.pointFields, List.forall_mem_cons]
  exact ⟨⟨.identifier (by decide) (by decide), number true⟩,
    ⟨.identifier (by decide) (by decide), number false⟩, List.forall_mem_nil _⟩

/-- A point and a line. -/
def figures : List ProductClass :=
  [⟨"geo", "Point", Registry.point []⟩, ⟨"geo", "Line", line⟩]

theorem onRound_completes_figures :
    ∃ ids registry report files,
      Registry.empty.registerAll (figures.map (·.description)) = .ok (ids, registry) ∧
      registry.Holds ids (figures.map (·.description)) ∧ ids.length = figures.length ∧
      (Processor.new Memory.empty {}).onRound registry.source ids true = .ok report ∧
      Serves report registry.source ids files := by
  apply onRound_completes (by decide)
  · simp only [figures, List.forall_mem_cons]
    exact ⟨point_wellFormed (List.forall_mem_nil _), line_wellFormed, List.forall_mem_nil _⟩
  · simp only [figures, List.forall_mem_cons]
    refine ⟨⟨rfl, Nat.le_refl 2, ?_, by decide, by decide +kernel⟩,
      ⟨rfl, Nat.le_refl 2, ?_, by decide, by decide +kernel⟩, List.forall_mem_nil _⟩
    · simp [Description.Shallow, Registry.point, TypeRef.depth, TypeRef.depthOf, TypeRef.maxDepth]
    · simp [Description.Shallow, line, TypeRef.depth, TypeRef.depthOf, TypeRef.maxDepth]
  · simp only [figures, List.pairwise_cons]
    exact ⟨List.forall_mem_singleton.mpr (.inr (by decide)), List.forall_mem_nil _, .nil⟩

/-- A class that is well formed and within the limit of what can be stored gets no file if
another constructor than the primary one has a type that nests too deeply. -/
theorem onRound_loses_nested :
    let description := Registry.point [⟨false, [⟨4, Registry.nested 32⟩]⟩]
    description.WellFormed "geo" "Point" ∧
      22 + description.write.length ≤ Wire.claimLimit ∧
      description.peak ≤ Wire.claimLimit ∧
      ∃ ids registry report, Registry.empty.registerAll [description] = .ok (ids, registry) ∧
        (Processor.new Memory.empty {}).onRound registry.source ids true = .ok report ∧
        report.outcome = .ok { recorded := 0, failed := 1, generated := some [] } ∧
        report.diagnostics.all = [.fatal "geo::Point"
          (ExtractionFault.unavailable "geo::Point" (.unreadable .nestedTooDeeply)).message] ∧
        report.processor.writer.files = [] := by
  intro description
  refine ⟨point_wellFormed (by decide), by decide +kernel, by decide +kernel, ?_⟩
  let registry : Registry := ⟨[⟨"geo::Point", some description.encode⟩]⟩
  have rejected : registry.source.accept ⟨0⟩ = .error (.extraction
      (.unavailable "geo::Point" (.unreadable .nestedTooDeeply))) := by decide +kernel
  let fresh : Processor DeclarationId Memory := .new .empty {}
  have collects : fresh.accumulator.Collects [] := .empty
  have registered : Registry.empty.registerAll [description] = .ok ([⟨0⟩], registry) := by
    decide +kernel
  let diagnostics : Diagnostics := ⟨[.fatal "geo::Point"
    (ExtractionFault.unavailable "geo::Point" (.unreadable .nestedTooDeeply)).message]⟩
  have tally : Tally.ofRound registry.source [] [⟨0⟩] =
      ⟨[], diagnostics, { failed := 1 }⟩ := by
    rw [Tally.ofRound, List.foldl_cons, Tally.present, rejected]
    rfl
  have generated : Code.generate ([] : List (Declaration DeclarationId)) {} = .ok .empty := rfl
  refine ⟨[⟨0⟩], registry,
    (fresh.gather registry.source [⟨0⟩]).close diagnostics { failed := 1 } .empty, registered,
    ?_, rfl, rfl, rfl⟩
  rw [onRound_closes collects, tally]
  exact congrArg (Except.map _) generated

end Processor

end RecordDerive
