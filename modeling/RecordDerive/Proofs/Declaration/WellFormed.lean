import RecordDerive.Proofs.Code.Plain
import RecordDerive.Proofs.Declaration.Registration

/-!
# Well-formed descriptions are accepted

A description is well formed if it is that of a product, its name is one in a package, and
its primary constructor has parameters with plain names and types, no more than a tuple has
elements.  The declaration that is read out of it is plain.  The descriptions that are made
of an interner's answers are well formed if the names asked for are plain.
-/

namespace RecordDerive

namespace Metadata

open Grammar

/-! ## Plain references -/

/-- A reference to a type without generic parameters, in which all names of classes resolve
to plain segments. -/
inductive PlainReference (table : NameTable) : TypeRef → Prop
  | named {index : UInt32} {segments : List Segment} {arguments : List TypeRef}
      (resolved : table.segments index = .ok segments) (some : segments ≠ [])
      (plain : ∀ segment ∈ segments, isPlainName segment.text = true)
      (each : ∀ argument ∈ arguments, PlainReference table argument) (nullable : Bool) :
      PlainReference table (.named index arguments nullable)
  | tuple {elements : List TypeRef} (each : ∀ element ∈ elements, PlainReference table element) :
      PlainReference table (.tuple elements)
  | array {element : TypeRef} (inner : PlainReference table element) (length : UInt64) :
      PlainReference table (.array element length)

section References

variable {table : NameTable}

theorem exists_plainNames {segments : List Segment}
    (plain : ∀ segment ∈ segments, isPlainName segment.text = true) :
    ∃ names, PlainName.texts names = segments.map (·.text) := by
  induction segments with
  | nil => exact ⟨[], rfl⟩
  | cons first rest ih =>
      obtain ⟨here, later⟩ := List.forall_mem_cons.mp plain
      obtain ⟨names, same⟩ := ih later
      exact ⟨⟨first.text, here⟩ :: names, congrArg (first.text :: ·) same⟩

/-- A reference is rendered as a plain type, wherever all of its levels are. -/
def RendersPlain (table : NameTable) (reference : TypeRef) : Prop :=
  ∃ type : PlainType, ∀ levels, reference.depth ≤ levels →
    table.typeTextWithin levels reference = .ok type.text

theorem exists_plainTypes {references : List TypeRef}
    (rendered : ∀ reference ∈ references, RendersPlain table reference) :
    ∃ types, ∀ levels, TypeRef.depthOf references ≤ levels →
      references.mapM (table.typeTextWithin levels) = .ok (PlainType.texts types) := by
  induction references with
  | nil => exact ⟨[], fun _ _ => rfl⟩
  | cons first rest ih =>
      obtain ⟨⟨type, here⟩, later⟩ := List.forall_mem_cons.mp rendered
      obtain ⟨types, others⟩ := ih later
      refine ⟨type :: types, fun levels deep => ?_⟩
      rw [TypeRef.depthOf, Nat.max_le] at deep
      rw [List.mapM_cons, here levels deep.1, others levels deep.2]
      rfl

namespace PlainReference

variable {reference : TypeRef}

theorem rendersPlain (plain : PlainReference table reference) : RendersPlain table reference := by
  induction plain with
  | @named index segments arguments resolved some plain each nullable ih =>
      obtain ⟨names, same⟩ := exists_plainNames plain
      obtain ⟨types, rendered⟩ := exists_plainTypes ih
      have named : table.qualifiedName index = .ok (Text.join (PlainName.texts names)) := by
        rw [NameTable.qualifiedName, resolved, same]
        rfl
      cases names with
      | nil => exact absurd (List.map_eq_nil_iff.mp same.symm) some
      | cons first others =>
          have base {levels : Nat} (deep : TypeRef.depthOf arguments ≤ levels) :
              table.typeTextWithin (levels + 1) (.named index arguments nullable) =
                .ok (NameTable.nullableText nullable
                  (PlainType.applied first others types).text) := by
            rw [NameTable.typeTextWithin, named]
            simp only [bind, Except.bind, rendered levels deep]
            rfl
          -- A type that may be absent is wrapped in a class of one argument.
          refine ⟨if nullable then .applied ⟨"Option", by decide⟩ [] [.applied first others types]
            else .applied first others types, ?_⟩
          intro levels deep
          cases levels with
          | zero => exact absurd deep (Nat.not_le.mpr (TypeRef.depth_pos _))
          | succ levels =>
              rw [base (Nat.le_of_succ_le_succ deep)]
              cases nullable with
              | false => rfl
              | true => simp [NameTable.nullableText, PlainType.text, PlainType.texts,
                  PlainName.texts, NameTable.appliedText, NameTable.listing]
  | @tuple elements each ih =>
      obtain ⟨types, rendered⟩ := exists_plainTypes ih
      refine ⟨.tuple types, fun levels deep => ?_⟩
      cases levels with
      | zero => exact absurd deep (Nat.not_le.mpr (TypeRef.depth_pos _))
      | succ levels =>
          rw [NameTable.typeTextWithin, rendered levels (Nat.le_of_succ_le_succ deep)]
          rfl
  | @array element inner length ih =>
      obtain ⟨type, rendered⟩ := ih
      refine ⟨.array type length.toNat, fun levels deep => ?_⟩
      cases levels with
      | zero => exact absurd deep (Nat.not_le.mpr (TypeRef.depth_pos _))
      | succ levels =>
          rw [NameTable.typeTextWithin, rendered levels (Nat.le_of_succ_le_succ deep)]
          rfl

theorem findParameterIn_eq_none {references : List TypeRef}
    (each : ∀ reference ∈ references, reference.findParameter = none) :
    TypeRef.findParameterIn references = none := by
  induction references with
  | nil => rfl
  | cons first rest ih =>
      obtain ⟨here, later⟩ := List.forall_mem_cons.mp each
      rw [TypeRef.findParameterIn, here, ih later]
      rfl

theorem findParameter_eq_none (plain : PlainReference table reference) :
    reference.findParameter = none := by
  induction plain with
  | named resolved some plain each nullable ih =>
      rw [TypeRef.findParameter]
      exact findParameterIn_eq_none ih
  | tuple each ih =>
      rw [TypeRef.findParameter]
      exact findParameterIn_eq_none ih
  | array inner length ih =>
      rw [TypeRef.findParameter]
      exact ih

end PlainReference

end References

/-! ## Well-formed descriptions -/

/-- A parameter with a name that a field may have, and a type that is plain and not nested
too deeply. -/
structure PlainParameter (table : NameTable) (parameter : Parameter) : Prop where
  named : ∃ text, table.string parameter.name = .ok text ∧ Code.FieldName text
  plain : PlainReference table parameter.type
  shallow : parameter.type.depth ≤ TypeRef.maxDepth

/-- The description of a product whose name is the one interned for a class in a package. -/
structure Description.WellFormed (package classPath : String) (description : Description) :
    Prop where
  aggregate : description.kind.isAggregate = true
  product : description.flags.contains .product = true
  name : description.names.segments description.name =
    .ok (Interner.classSegments package classPath)
  named : Text.segments classPath ≠ []
  plain : ∀ segment ∈ Text.segments package ++ Text.segments classPath,
    isPlainName segment = true
  constructor : ∃ constructor, description.primaryConstructor = some constructor ∧
    constructor.parameters.length ≤ maxArity ∧
    ∀ parameter ∈ constructor.parameters, PlainParameter description.names parameter

variable {table : NameTable}

/-- A plain parameter is read as a plain field. -/
theorem PlainParameter.exists_field {parameter : Parameter}
    (plain : PlainParameter table parameter) (label name : String) :
    ∃ field, Extraction.field label name table parameter = .ok field ∧ Code.PlainField field := by
  obtain ⟨text, named, fieldName⟩ := plain.named
  obtain ⟨type, rendered⟩ := plain.plain.rendersPlain
  have typed := rendered _ plain.shallow
  refine ⟨⟨text, type.text⟩, ?_, fieldName, type, rfl⟩
  rw [Extraction.field, named, plain.plain.findParameter_eq_none, NameTable.typeText, typed]
  rfl

namespace Description.WellFormed

variable {package classPath : String} {description : Description}

theorem qualifiedName (wellFormed : description.WellFormed package classPath) :
    description.names.qualifiedName description.name =
      .ok (Text.join (Text.segments package ++ Text.segments classPath)) := by
  rw [NameTable.qualifiedName, wellFormed.name]
  simp [Interner.classSegments, Function.comp_def, bind, Except.bind, pure, Except.pure]

/-- The declaration that is read out of a well-formed description is plain. -/
theorem exists_ofDescription (wellFormed : description.WellFormed package classPath) {H : Type}
    (handle : H) (label : String) :
    ∃ declaration, Extraction.ofDescription handle label description = .ok declaration ∧
      Code.PlainDeclaration (Text.segments package) (Text.segments classPath) declaration := by
  obtain ⟨constructor, primary, few, plain⟩ := wellFormed.constructor
  have isProduct : description.isProduct = true := by
    rw [Description.isProduct, wellFormed.product, wellFormed.aggregate]
    rfl
  obtain ⟨fields, read, length, fieldsPlain⟩ :=
    Extraction.exists_mapM fun parameter member => (plain parameter member).exists_field label
      (Text.join ((Interner.classSegments package classPath).map (·.text)))
  refine ⟨⟨handle, Text.join (Text.segments package), Text.join (Text.segments classPath), fields⟩,
    ?_, rfl, rfl, wellFormed.plain, wellFormed.named, fieldsPlain, length.trans_le few⟩
  rw [Extraction.ofDescription_of_segments wellFormed.name isProduct primary, read,
    joinKind_package, joinKind_type]
  rfl

/-- A source that has a well-formed description accepts a plain declaration from it. -/
theorem exists_accept (wellFormed : description.WellFormed package classPath) {H : Type}
    {source : Source H} {handle : H} (described : source.describe handle = .ok description) :
    ∃ declaration, source.accept handle = .ok declaration ∧
      Code.PlainDeclaration (Text.segments package) (Text.segments classPath) declaration := by
  obtain ⟨declaration, read, plain⟩ :=
    wellFormed.exists_ofDescription handle (source.label handle)
  refine ⟨declaration, ?_, plain⟩
  have validated : declaration.validate = .ok declaration := if_pos plain.few
  have extracted : source.extract handle = .ok declaration := by
    rw [Source.extract, described]
    exact read
  rw [Source.accept, extracted]
  exact congrArg (Except.mapError DeclarationFault.validation) validated

end Description.WellFormed

/-! ## Answers of an interner -/

end Metadata

open Metadata Grammar

/-- A type by names all of which are plain. -/
inductive NamedType.Plain : NamedType → Prop
  | named {name : ClassName} {arguments : List NamedType} (some : name.segments ≠ [])
      (plain : ∀ segment ∈ name.segments, isPlainName segment.text = true)
      (each : ∀ argument ∈ arguments, argument.Plain) (nullable : Bool) :
      Plain (.named name arguments nullable)
  | tuple {elements : List NamedType} (each : ∀ element ∈ elements, element.Plain) :
      Plain (.tuple elements)
  | array {element : NamedType} (inner : element.Plain) (length : UInt64) :
      Plain (.array element length)

section Answers

variable {answers : List (Request × UInt32)} {table : NameTable}

mutual

/-- What stands for a plain type is a plain reference. -/
theorem Interned.plainReference (serves : table.Serves answers) :
    {type : NamedType} → {reference : TypeRef} → Interned answers type reference →
      type.Plain → PlainReference table reference
  | _, _, .named answered all, .named full plain each nullable =>
      .named (segments_of_answer serves answered) full plain
        (all.plainReferences serves each) nullable
  | _, _, .tuple all, .tuple each => .tuple (all.plainReferences serves each)
  | _, _, .array inner, .array plain length =>
      .array (inner.plainReference serves plain) length

theorem InternedAll.plainReferences (serves : table.Serves answers) :
    {types : List NamedType} → {references : List TypeRef} → InternedAll answers types references →
      (∀ type ∈ types, type.Plain) → ∀ reference ∈ references, PlainReference table reference
  | _, _, .nil, _ => List.forall_mem_nil _
  | _, _, .cons head tail, plain => by
      obtain ⟨here, later⟩ := List.forall_mem_cons.mp plain
      exact List.forall_mem_cons.mpr
        ⟨head.plainReference serves here, tail.plainReferences serves later⟩

end

theorem InternedField.plainParameter (serves : table.Serves answers) {field : String × NamedType}
    {parameter : Parameter} (interned : InternedField answers field parameter)
    (named : Code.FieldName field.1) (plain : field.2.Plain) : PlainParameter table parameter where
  named := ⟨field.1, string_of_answer serves interned.name, named⟩
  plain := interned.type.plainReference serves plain
  shallow := interned.shallow

/-- What a host describes by plain names is well formed. -/
theorem Describes.wellFormed {requests : List Request} {package classPath : String}
    {fields : List (String × NamedType)} {description : Description}
    (described : Describes requests package classPath fields description)
    (small : description.names.Small) (named : Text.segments classPath ≠ [])
    (plain : ∀ segment ∈ Text.segments package ++ Text.segments classPath,
      isPlainName segment = true)
    (few : fields.length ≤ maxArity)
    (each : ∀ field ∈ fields, Code.FieldName field.1 ∧ field.2.Plain) :
    description.WellFormed package classPath where
  aggregate := described.aggregate
  product := described.product
  name := by
    rw [segments_of_answer (described.serves small) described.name, segments_within named]
  named := named
  plain := plain
  constructor := by
    obtain ⟨constructor, primary, interned⟩ := described.fields
    refine ⟨constructor, primary.primaryConstructor, interned.length_eq ▸ few, ?_⟩
    have serves := described.serves small
    generalize constructor.parameters = parameters at interned
    clear few described
    induction interned with
    | nil => exact List.forall_mem_nil _
    | cons head tail ih =>
        obtain ⟨⟨fieldName, type⟩, later⟩ := List.forall_mem_cons.mp each
        exact List.forall_mem_cons.mpr ⟨head.plainParameter serves fieldName type, ih later⟩

end Answers

end RecordDerive
