import Mathlib.Control.Monad.Basic
import Mathlib.Data.List.Forall2
import RecordDerive.Proofs.Declaration.Extraction
import RecordDerive.Proofs.Metadata.Interning
import RecordDerive.Proofs.Metadata.RoundTrip
import RecordDerive.Proofs.Text.Segments

/-!
# From names to declarations and back

A host knows a class by names: its own, those of its fields and those in their types.
It interns them in any order, registers the description made of the indices, and what
is extracted from the registry are the names again, in the order of the fields.
-/

namespace RecordDerive

open Metadata

/-! ## Types by names -/

/-- A type with the names of its classes where a reference has indices, and without
generic parameters. -/
inductive NamedType
  | named (name : ClassName) (arguments : List NamedType) (nullable : Bool)
  | tuple (elements : List NamedType)
  | array (element : NamedType) (length : UInt64)

namespace NamedType

mutual

/-- How a type is written. -/
def text : NamedType → String
  | .named name arguments nullable =>
      let applied :=
        if (texts arguments).isEmpty then name.text
        else name.text ++ "<" ++ String.intercalate ", " (texts arguments) ++ ">"
      if nullable then "Option<" ++ applied ++ ">" else applied
  | .tuple elements =>
      match texts elements with
      | [only] => "(" ++ only ++ ",)"
      | elements => "(" ++ String.intercalate ", " elements ++ ")"
  | .array element length => "[" ++ element.text ++ "; " ++ toString length.toNat ++ "]"

/-- How types are written, each by itself. -/
def texts : List NamedType → List String
  | [] => []
  | first :: rest => first.text :: texts rest

end

end NamedType

mutual

/-- A reference stands for a type by the answers of an interner. -/
inductive Interned (answers : List (Request × UInt32)) : NamedType → TypeRef → Prop
  | named {name : ClassName} {index : UInt32} {arguments : List NamedType}
      {references : List TypeRef} {nullable : Bool}
      (answered : (.type name, index) ∈ answers) (all : InternedAll answers arguments references) :
      Interned answers (.named name arguments nullable) (.named index references nullable)
  | tuple {elements : List NamedType} {references : List TypeRef}
      (all : InternedAll answers elements references) :
      Interned answers (.tuple elements) (.tuple references)
  | array {element : NamedType} {reference : TypeRef} {length : UInt64}
      (inner : Interned answers element reference) :
      Interned answers (.array element length) (.array reference length)

/-- References stand for types one by one. -/
inductive InternedAll (answers : List (Request × UInt32)) :
    List NamedType → List TypeRef → Prop
  | nil : InternedAll answers [] []
  | cons {first : NamedType} {reference : TypeRef} {rest : List NamedType}
      {references : List TypeRef}
      (head : Interned answers first reference) (tail : InternedAll answers rest references) :
      InternedAll answers (first :: rest) (reference :: references)

end

section Types

variable {answers : List (Request × UInt32)} {table : NameTable}

mutual

theorem Interned.findParameter_eq_none : {type : NamedType} → {reference : TypeRef} →
    Interned answers type reference → reference.findParameter = none
  | _, _, .named _ all => by
      rw [TypeRef.findParameter]
      exact all.findParameterIn_eq_none
  | _, _, .tuple all => by
      rw [TypeRef.findParameter]
      exact all.findParameterIn_eq_none
  | _, _, .array inner => by
      rw [TypeRef.findParameter]
      exact inner.findParameter_eq_none

theorem InternedAll.findParameterIn_eq_none : {types : List NamedType} →
    {references : List TypeRef} → InternedAll answers types references →
      TypeRef.findParameterIn references = none
  | _, _, .nil => rfl
  | _, _, .cons head tail => by
      rw [TypeRef.findParameterIn, head.findParameter_eq_none, tail.findParameterIn_eq_none]
      rfl

end

theorem segments_of_answer (serves : table.Serves answers) {name : ClassName} {index : UInt32}
    (answered : (.type name, index) ∈ answers) : table.segments index = .ok name.segments := by
  cases serves.resolves answered with
  | type chain => exact chain.segments_eq serves.ordered

theorem qualifiedName_of_answer (serves : table.Serves answers) {name : ClassName}
    {index : UInt32} (answered : (.type name, index) ∈ answers) :
    table.qualifiedName index = .ok name.text := by
  rw [NameTable.qualifiedName, segments_of_answer serves answered]
  rfl

theorem string_of_answer (serves : table.Serves answers) {content : String} {index : UInt32}
    (answered : (.text content, index) ∈ answers) : table.string index = .ok content := by
  cases serves.resolves answered with
  | text found => rw [NameTable.string, found]

mutual

/-- A reference is rendered as the type it stands for is written. -/
theorem Interned.typeText (serves : table.Serves answers) :
    {type : NamedType} → {reference : TypeRef} → {levels : Nat} →
      Interned answers type reference → reference.depth ≤ levels →
        table.typeTextWithin levels reference = .ok type.text
  | _, reference, 0, _, shallow => absurd shallow (Nat.not_le.mpr reference.depth_pos)
  | _, _, levels + 1, .named answered all, shallow => by
      have named := qualifiedName_of_answer serves answered
      have arguments := all.typeTexts serves (Nat.le_of_succ_le_succ shallow)
      rw [NameTable.typeTextWithin, named, NamedType.text]
      simp only [bind, Except.bind, arguments]
      rfl
  | _, _, levels + 1, .tuple all, shallow => by
      have elements := all.typeTexts serves (Nat.le_of_succ_le_succ shallow)
      rw [NameTable.typeTextWithin, elements, NamedType.text]
      rfl
  | _, _, levels + 1, .array inner, shallow => by
      have element := inner.typeText serves (Nat.le_of_succ_le_succ shallow)
      rw [NameTable.typeTextWithin, element, NamedType.text]
      rfl

theorem InternedAll.typeTexts (serves : table.Serves answers) :
    {types : List NamedType} → {references : List TypeRef} → {levels : Nat} →
      InternedAll answers types references → TypeRef.depthOf references ≤ levels →
        references.mapM (table.typeTextWithin levels) = .ok (NamedType.texts types)
  | _, _, _, .nil, _ => rfl
  | _, _, _, .cons head tail, shallow => by
      rw [TypeRef.depthOf, Nat.max_le] at shallow
      have first := head.typeText serves shallow.1
      have rest := tail.typeTexts serves shallow.2
      rw [List.mapM_cons, first, rest, NamedType.texts]
      rfl

end

end Types

/-! ## Descriptions by names -/

/-- A parameter stands for a field by its name and type. -/
structure InternedField (answers : List (Request × UInt32)) (field : String × NamedType)
    (parameter : Parameter) : Prop where
  name : (.text field.1, parameter.name) ∈ answers
  type : Interned answers field.2 parameter.type
  shallow : parameter.type.depth ≤ TypeRef.maxDepth

/-- The constructor whose parameters are the fields: the first that is marked, or the
first of all where none is. -/
inductive Primary : List Constructor → Constructor → Prop
  | marked {before after : List Constructor} {constructor : Constructor}
      (passed : ∀ other ∈ before, other.isPrimary = false)
      (mark : constructor.isPrimary = true) : Primary (before ++ constructor :: after) constructor
  | first {constructor : Constructor} {after : List Constructor}
      (unmarked : ∀ other ∈ constructor :: after, other.isPrimary = false) :
      Primary (constructor :: after) constructor

/-- A description that a host makes of the answers to its requests, for a product in a
package with some fields. -/
structure Describes (requests : List Request) (package classPath : String)
    (fields : List (String × NamedType)) (description : Description) : Prop where
  names : description.names = (Interner.empty.serve requests).2.table
  name : (.type (.within package classPath), description.name) ∈
    (Interner.empty.serve requests).1
  aggregate : description.kind.isAggregate = true
  product : description.flags.contains .product = true
  fields : ∃ constructor, Primary description.constructors constructor ∧
    List.Forall₂ (InternedField (Interner.empty.serve requests).1) fields constructor.parameters

/-- A field with its type as text. -/
def NamedType.field (field : String × NamedType) : Field := ⟨field.1, field.2.text⟩

theorem Primary.primaryConstructor {description : Description} {constructor : Constructor}
    (primary : Primary description.constructors constructor) :
    description.primaryConstructor = some constructor := by
  rw [Description.primaryConstructor]
  generalize description.constructors = constructors at primary
  cases primary with
  | @marked before after _ passed mark =>
      have skipped : before.find? (·.isPrimary) = none := by simpa using passed
      simp [List.find?_append, skipped, mark]
  | @first constructor after unmarked =>
      have nowhere : (constructor :: after).find? (·.isPrimary) = none := by simpa using unmarked
      rw [nowhere]
      rfl

theorem primaryConstructor_eq_some_iff {description : Description} {constructor : Constructor} :
    description.primaryConstructor = some constructor ↔
      Primary description.constructors constructor := by
  refine ⟨?_, Primary.primaryConstructor⟩
  intro found
  rw [Description.primaryConstructor] at found
  generalize description.constructors = constructors at found
  cases search : constructors.find? (·.isPrimary) with
  | some marked =>
      rw [search] at found
      cases found
      obtain ⟨mark, before, after, rfl, passed⟩ := List.find?_eq_some_iff_append.mp search
      exact .marked (by simpa using passed) mark
  | none =>
      rw [search] at found
      cases constructors with
      | nil => cases found
      | cons first rest =>
          cases found
          exact .first (by simpa using search)

variable {answers : List (Request × UInt32)} {table : NameTable}

theorem InternedField.field (serves : table.Serves answers) {field : String × NamedType}
    {parameter : Parameter} (interned : InternedField answers field parameter)
    (label name : String) :
    Extraction.field label name table parameter = .ok (NamedType.field field) := by
  have named := string_of_answer serves interned.name
  have typed := interned.type.typeText serves interned.shallow
  rw [Extraction.field, named, NameTable.typeText, typed, interned.type.findParameter_eq_none]
  rfl

theorem mapM_field (serves : table.Serves answers) {fields : List (String × NamedType)}
    {parameters : List Parameter}
    (interned : List.Forall₂ (InternedField answers) fields parameters)
    (label name : String) :
    parameters.mapM (Extraction.field label name table) =
      .ok (fields.map NamedType.field) := by
  induction interned with
  | nil => rfl
  | cons head tail ih =>
      rw [List.mapM_cons, head.field serves, ih]
      rfl

theorem segments_within {package classPath : String} (named : Text.segments classPath ≠ []) :
    (ClassName.within package classPath).segments =
      Interner.classSegments package classPath := by
  rw [ClassName.segments, ClassName.segmentsWithin]
  cases found : Interner.classSegments package classPath with
  | nil => simp [Interner.classSegments, named] at found
  | cons first rest => rfl

theorem joinKind_package (package classPath : String) :
    NameTable.joinKind .package (Interner.classSegments package classPath) =
      Text.join (Text.segments package) := by
  simp [NameTable.joinKind, Interner.classSegments, List.filter_map, Function.comp_def]

theorem joinKind_type (package classPath : String) :
    NameTable.joinKind .type (Interner.classSegments package classPath) =
      Text.join (Text.segments classPath) := by
  simp [NameTable.joinKind, Interner.classSegments, List.filter_map, Function.comp_def]

theorem text_within {package classPath : String} (named : Text.segments classPath ≠ []) :
    (ClassName.within package classPath).text =
      Text.join (Text.segments package ++ Text.segments classPath) := by
  rw [ClassName.text, segments_within named]
  simp [Interner.classSegments, Function.comp_def]

variable {requests : List Request} {package classPath : String}
  {fields : List (String × NamedType)} {description : Description}

theorem Describes.serves (described : Describes requests package classPath fields description)
    (small : description.names.Small) :
    description.names.Serves (Interner.empty.serve requests).1 := by
  rw [described.names] at small ⊢
  exact Interner.serve_serves requests Interner.empty_ordered small

theorem Describes.qualifiedName
    (described : Describes requests package classPath fields description)
    (small : description.names.Small) (named : Text.segments classPath ≠ []) :
    description.names.qualifiedName description.name =
      .ok (Text.join (Text.segments package ++ Text.segments classPath)) := by
  rw [qualifiedName_of_answer (described.serves small) described.name, text_within named]

/-- The names and types that a description is made of are read out of it. -/
theorem Describes.ofDescription
    (described : Describes requests package classPath fields description)
    (small : description.names.Small) (named : Text.segments classPath ≠ []) {H : Type}
    (handle : H) (label : String) :
    Extraction.ofDescription handle label description =
      .ok ⟨handle, Text.join (Text.segments package), Text.join (Text.segments classPath),
        fields.map NamedType.field⟩ := by
  have serves := described.serves small
  have resolved := segments_of_answer serves described.name
  rw [segments_within named] at resolved
  have isProduct : description.isProduct = true := by
    rw [Description.isProduct, described.product, described.aggregate]
    rfl
  obtain ⟨constructor, primary, interned⟩ := described.fields
  rw [Extraction.ofDescription_of_segments resolved isProduct primary.primaryConstructor,
    mapM_field serves interned, joinKind_package, joinKind_type]
  rfl

/-! ## Registries -/

namespace Registry

variable {registry : Registry}

theorem entry_push (room : registry.entries.length < indexBound) (entry : RegistryEntry) :
    Registry.entry? (registry.push entry).2 (registry.push entry).1 = some entry := by
  have position : (UInt32.ofNat registry.entries.length).toNat = registry.entries.length :=
    UInt32.toNat_ofNat_of_lt' room
  rw [ entry?, push, position]
  exact List.getElem?_concat_length

/-- What is registered is described again, if it can be read at all. -/
theorem describe_push (room : registry.entries.length < indexBound) (label : String)
    {version : Version} (recoverable : description.Recoverable version) :
    (registry.push ⟨label, some (description.encodeAt version)⟩).2.describe
      (registry.push ⟨label, some (description.encodeAt version)⟩).1 = .ok description := by
  rw [describe, entry_push room]
  exact Description.decode_of_recoverable recoverable

/-- What is registered is extracted again. -/
theorem extract_register (room : registry.entries.length < indexBound)
    (described : Describes requests package classPath fields description)
    (named : Text.segments classPath ≠ []) (small : description.names.Small)
    (shallow : description.Shallow) (envelope : 22 + description.write.length ≤ Wire.claimLimit)
    (payload : description.peak ≤ Wire.claimLimit) :
    ∃ id later declaration, registry.register description = .ok (id, later) ∧
      later.source.extract id = .ok declaration ∧ declaration.handle = id ∧
      declaration.package = Text.join (Text.segments package) ∧
      declaration.name = Text.join (Text.segments classPath) ∧
      declaration.qualifiedName =
        Text.join (Text.segments package ++ Text.segments classPath) ∧
      declaration.fields = fields.map NamedType.field := by
  have qualified := described.qualifiedName small named
  have recoverable : description.Recoverable .current :=
    ⟨rfl, Nat.le_refl 2, shallow, envelope, payload⟩
  let entry : RegistryEntry :=
    ⟨Text.join (Text.segments package ++ Text.segments classPath), some description.encode⟩
  refine ⟨(registry.push entry).1, (registry.push entry).2, ⟨(registry.push entry).1, _, _, _⟩,
    ?_, ?_, rfl, rfl, rfl, ?_, rfl⟩
  · rw [register, qualified]
    rfl
  · have found : (registry.push entry).2.source.describe (registry.push entry).1 =
        .ok description := describe_push room _ recoverable
    rw [Source.extract, found]
    exact described.ofDescription small named _ _
  · exact Text.qualify_join named fun part member => Text.ne_empty_of_mem_segments member

/-! ### A point -/

/-- Names asked for in an order of their own. -/
def pointRequests : List Request :=
  [.text "x", .type (.full "i32"), .type (.within "geo" "Point"), .text "y"]

def pointFields : List (String × NamedType) :=
  [("y", .named (.full "i32") [] true), ("x", .named (.full "i32") [] false)]

/-- A point with further constructors before the primary one. -/
def point (others : List Constructor) : Description where
  name := 2
  kind := .struct
  flags := .product
  constructors := others ++ [⟨true, [⟨4, .named 0 [] true⟩, ⟨0, .named 0 [] false⟩]⟩]
  names :=
    ⟨["x", "i32", "geo", "Point", "y"], [⟨none, 1, .type⟩, ⟨none, 2, .package⟩, ⟨some 1, 3, .type⟩]⟩

theorem point_answers : Interner.empty.serve pointRequests =
    ([(.text "x", 0), (.type (.full "i32"), 0), (.type (.within "geo" "Point"), 2),
      (.text "y", 4)], ⟨(point []).names⟩) := by decide

theorem point_describes {others : List Constructor}
    (passed : ∀ other ∈ others, other.isPrimary = false) :
    Describes pointRequests "geo" "Point" pointFields (point others) where
  names := by
    rw [point_answers]
    rfl
  name := by
    rw [point_answers]
    simp [point]
  aggregate := rfl
  product := by
    show Flags.product.contains .product = true
    decide
  fields := by
    refine ⟨_, .marked passed rfl, ?_⟩
    rw [point_answers]
    refine .cons ⟨?_, .named ?_ .nil, ?_⟩ (.cons ⟨?_, .named ?_ .nil, ?_⟩ .nil)
    all_goals simp [TypeRef.depth, TypeRef.depthOf, TypeRef.maxDepth]

theorem extract_register_point :
    ∃ id later declaration, Registry.empty.register (point []) = .ok (id, later) ∧
      later.source.extract id = .ok declaration ∧ declaration.handle = id ∧
      declaration.package = Text.join (Text.segments "geo") ∧
      declaration.name = Text.join (Text.segments "Point") ∧
      declaration.qualifiedName = Text.join (Text.segments "geo" ++ Text.segments "Point") ∧
      declaration.fields = pointFields.map NamedType.field :=
  extract_register (by decide) (point_describes nofun) (by decide) ⟨by decide, by decide⟩
    (by simp [Description.Shallow, point, TypeRef.depth, TypeRef.depthOf, TypeRef.maxDepth])
    (by decide +kernel) (by decide +kernel)

/-- Arrays around a class. -/
def nested (levels : Nat) : TypeRef :=
  levels.repeat (.array · 1) (.ofClass 0)

/-- One type that nests too deeply makes the whole description unreadable, also in a
constructor that is not the primary one. -/
theorem extract_register_nested :
    let description := point [⟨false, [⟨4, nested 32⟩]⟩]
    Describes pointRequests "geo" "Point" pointFields description ∧
      Text.segments "Point" ≠ [] ∧ description.names.Small ∧
      22 + description.write.length ≤ Wire.claimLimit ∧
      description.peak ≤ Wire.claimLimit ∧
      ∃ id later, Registry.empty.register description = .ok (id, later) ∧
        later.source.extract id =
          .error (.unavailable "geo::Point" (.unreadable .nestedTooDeeply)) := by
  refine ⟨point_describes (by decide), by decide, ⟨by decide, by decide⟩, by decide +kernel,
    by decide +kernel, ⟨0⟩, _, rfl, by decide +kernel⟩

end Registry

end RecordDerive
