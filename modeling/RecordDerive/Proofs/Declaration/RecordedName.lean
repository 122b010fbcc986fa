import RecordDerive.Proofs.Declaration.Extractable
import RecordDerive.Proofs.Metadata.Enclosure

/-!
# The name a declaration is recorded under

A declaration is reported under the name of its class, and recorded with the packages and the
classes of that name apart.  Put together again these give the same name if no class encloses a
package, and the package, if there is one, has a text.  So it is for every class in the table
of an interner.
-/

namespace RecordDerive

open Metadata

namespace Metadata.Segment

variable {segments : List Segment}

/-- The texts of packages come before those of classes, as they do where no class encloses a
package. -/
def InOrder (segments : List Segment) : Prop :=
  textsOf .package segments ++ textsOf .type segments = segments.map (·.text)

/-- The texts can be told apart when they are joined. -/
def Plain (segments : List Segment) : Prop :=
  ∀ segment ∈ segments, segment.text ≠ "" ∧ ':' ∉ segment.text.toList

/-- The name made of the packages and the classes of some segments. -/
def parted (segments : List Segment) : String :=
  Text.qualify (NameTable.joinKind .package segments) (NameTable.joinKind .type segments)

theorem parted_of_classes (classes : textsOf .type segments ≠ [])
    (unnamed : textsOf .package segments ≠ [""]) :
    parted segments = Text.join (textsOf .package segments ++ textsOf .type segments) :=
  (Text.qualify_join_iff classes).mpr unnamed

/-- In order, the parts make up the name unless all of the package is one empty text. -/
theorem InOrder.parted_eq_iff (inOrder : InOrder segments)
    (classes : textsOf .type segments ≠ []) :
    parted segments = Text.join (segments.map (·.text)) ↔
      textsOf .package segments ≠ [""] := by
  rw [← inOrder]
  exact Text.qualify_join_iff classes

/-- If the texts can be told apart, the parts make up the name only in order. -/
theorem Plain.parted_eq_iff (plain : Plain segments) (classes : textsOf .type segments ≠ []) :
    parted segments = Text.join (segments.map (·.text)) ↔ InOrder segments := by
  have among (kind : SegmentKind) : ∀ text ∈ textsOf kind segments,
      text ≠ "" ∧ ':' ∉ text.toList := by
    intro text listed
    obtain ⟨segment, member, rfl⟩ := List.mem_map.mp listed
    exact plain segment (List.mem_of_mem_filter member)
  have parts := List.forall_mem_append.mpr ⟨among .package, among .type⟩
  have whole : ∀ text ∈ segments.map (·.text), text ≠ "" ∧ ':' ∉ text.toList :=
    List.forall_mem_map.mpr plain
  have unnamed : textsOf .package segments ≠ [""] := by
    intro single
    exact (among .package "" (by rw [single]; exact List.mem_cons_self)).1 rfl
  rw [parted_of_classes classes unnamed, InOrder]
  constructor
  · intro joined
    have split := congrArg Text.segments joined
    rw [Text.segments_join (fun text listed => (parts text listed).1)
      fun text listed => (parts text listed).2] at split
    rwa [Text.segments_join (fun text listed => (whole text listed).1)
      fun text listed => (whole text listed).2] at split
  · exact congrArg Text.join

end Metadata.Segment

namespace Source

open Extraction
open Segment (InOrder Plain parted textsOf)

variable {H : Type} {source : Source H} {handle : H} {description : Description}
  {declaration : Declaration H}

/-- The name a declaration is recorded under is parted and put together again. -/
theorem extract_qualifiedName (described : source.describe handle = .ok description)
    (extracted : source.extract handle = .ok declaration) :
    ∃ segments, description.names.segments description.name = .ok segments ∧
      description.names.qualifiedName description.name =
        .ok (Text.join (segments.map (·.text))) ∧
      declaration.qualifiedName = parted segments := by
  rw [extract_of_describe described] at extracted
  obtain ⟨name, constructor, named, -, -, -, package, path, -⟩ := ofDescription_eq_ok extracted
  obtain ⟨segments, resolved, -⟩ := bind_eq_ok named
  rw [NameTable.packageOf, resolved] at package
  rw [NameTable.classPath, resolved] at path
  have packaged : NameTable.joinKind .package segments = declaration.package :=
    Except.ok.inj package
  have pathed : NameTable.joinKind .type segments = declaration.name := Except.ok.inj path
  refine ⟨segments, resolved, ?_, ?_⟩
  · rw [NameTable.qualifiedName, resolved]
    rfl
  · rw [Declaration.qualifiedName, parted, packaged, pathed]

/-- A declaration with a class in its name is recorded under the name that it is reported under,
if the packages of the name come before its classes and are not a single empty text; of texts
that can be told apart, only then; and if an interner has made the table, always. -/
theorem extract_reported (described : source.describe handle = .ok description)
    (extracted : source.extract handle = .ok declaration) :
    ∃ segments, description.names.segments description.name = .ok segments ∧
      (textsOf .type segments ≠ [] →
        (InOrder segments →
          (description.names.qualifiedName description.name = .ok declaration.qualifiedName ↔
            textsOf .package segments ≠ [""])) ∧
        (Plain segments →
          (description.names.qualifiedName description.name = .ok declaration.qualifiedName ↔
            InOrder segments)) ∧
        ∀ requests, description.names = (Interner.empty.serve requests).2.table →
          description.names.Small →
            description.names.qualifiedName description.name = .ok declaration.qualifiedName) := by
  obtain ⟨segments, resolved, named, recorded⟩ := extract_qualifiedName described extracted
  have same_iff : description.names.qualifiedName description.name =
      .ok declaration.qualifiedName ↔ parted segments = Text.join (segments.map (·.text)) := by
    rw [named, recorded, Except.ok.injEq, eq_comm]
  refine ⟨segments, resolved, fun classes => ⟨?_, ?_, ?_⟩⟩
  · intro inOrder
    exact same_iff.trans (inOrder.parted_eq_iff classes)
  · intro plain
    exact same_iff.trans (plain.parted_eq_iff classes)
  · intro requests made small
    have chain := NameTable.segments_eq_ok_iff.mp resolved
    rw [made] at chain small
    have tidy := (Interner.serve_tidy requests NameTable.empty_tidy small).segments chain
    have inOrder : InOrder segments := tidy.textsOf_append_textsOf
    exact same_iff.mpr ((inOrder.parted_eq_iff classes).mpr tidy.textsOf_package_ne)

/-- A nested class that an interner has put behind others. -/
theorem extract_reported_inner :
    let requests : List Request :=
      [.type (.full "std::vec::Vec"), .text "x", .type (.within "geo::" "Outer::Inner")]
    let table := (Interner.empty.serve requests).2.table
    let description : Description := ⟨5, .unitStruct, .product, [⟨true, []⟩], table⟩
    let source : Source Nat := .ofDescriptions fun _ => .ok description
    let declaration : Declaration Nat := ⟨7, "geo", "Outer::Inner", []⟩
    source.describe 7 = .ok description ∧ source.extract 7 = .ok declaration ∧
      ∃ segments, table.segments 5 = .ok segments ∧ textsOf .type segments ≠ [] ∧
        table.qualifiedName 5 = .ok declaration.qualifiedName := by
  intro requests table description source declaration
  have extracted : source.extract 7 = .ok declaration := by decide
  obtain ⟨segments, resolved, names⟩ :=
    @extract_reported _ source 7 description declaration rfl extracted
  have classes : textsOf .type segments ≠ [] := by
    have found : table.segments 5 =
        .ok [⟨.package, "geo"⟩, ⟨.type, "Outer"⟩, ⟨.type, "Inner"⟩] := by decide
    cases resolved.symm.trans found
    decide
  have small : table.Small := by constructor <;> decide
  exact ⟨rfl, extracted, segments, resolved, classes, (names classes).2.2 requests rfl small⟩

/-- A package inside a class, a class inside a package without a text, and a name that an
interner was given without a class. -/
theorem extract_reported_apart :
    let unit (name : UInt32) (names : NameTable) : Description :=
      ⟨name, .unitStruct, .product, [⟨true, []⟩], names⟩
    let enclosed := unit 1 ⟨["Outer", "geo"], [⟨none, 0, .type⟩, ⟨some 0, 1, .package⟩]⟩
    let unnamed := unit 1 ⟨["", "Point"], [⟨none, 0, .package⟩, ⟨some 0, 1, .type⟩]⟩
    let classless := unit 0 (Interner.empty.serve [.type (.within "geo" "")]).2.table
    let source (description : Description) : Source Nat := .ofDescriptions fun _ => .ok description
    (∃ declaration, (source enclosed).extract 7 = .ok declaration ∧
      declaration.qualifiedName = "geo::Outer" ∧
      enclosed.names.qualifiedName enclosed.name = .ok "Outer::geo") ∧
    (∃ declaration, (source unnamed).extract 7 = .ok declaration ∧
      declaration.qualifiedName = "Point" ∧
      unnamed.names.qualifiedName unnamed.name = .ok "::Point") ∧
    ∃ declaration, (source classless).extract 7 = .ok declaration ∧
      declaration.qualifiedName = "geo::" ∧
      classless.names.qualifiedName classless.name = .ok "geo" := by
  refine ⟨⟨⟨7, "geo", "Outer", []⟩, ?_⟩, ⟨⟨7, "", "Point", []⟩, ?_⟩, ⟨⟨7, "geo", "", []⟩, ?_⟩⟩ <;>
    decide

end Source

end RecordDerive
