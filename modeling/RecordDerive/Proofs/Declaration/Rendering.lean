import RecordDerive.Proofs.Declaration.Extraction
import RecordDerive.Proofs.Metadata.Readback
import RecordDerive.Proofs.Metadata.Resolution

/-!
# Which types have a text

A type mentions classes and generic parameters, at any depth.  It has a text if it is not
nested too deeply and everything it mentions has a name; what is found of its generic
parameters is the leftmost one.
-/

namespace RecordDerive

namespace Metadata

namespace TypeRef

/-! ## Mentions -/

mutual

/-- The generic parameters in a type, from left to right. -/
def generics : TypeRef → List UInt32
  | .named _ arguments _ => genericsIn arguments
  | .parameter name => [name]
  | .tuple elements => genericsIn elements
  | .array element _ => element.generics

/-- The generic parameters in a list of types. -/
def genericsIn : List TypeRef → List UInt32
  | [] => []
  | first :: rest => first.generics ++ genericsIn rest

end

mutual

/-- The classes in a type, from left to right. -/
def classes : TypeRef → List UInt32
  | .named name arguments _ => name :: classesIn arguments
  | .parameter _ => []
  | .tuple elements => classesIn elements
  | .array element _ => element.classes

/-- The classes in a list of types. -/
def classesIn : List TypeRef → List UInt32
  | [] => []
  | first :: rest => first.classes ++ classesIn rest

end

theorem forall_genericsIn {types : List TypeRef} {property : UInt32 → Prop} :
    (∀ generic ∈ genericsIn types, property generic) ↔
      ∀ type ∈ types, ∀ generic ∈ type.generics, property generic := by
  induction types with
  | nil => simp [genericsIn]
  | cons first rest ih => rw [genericsIn, List.forall_mem_append, ih, List.forall_mem_cons]

theorem forall_classesIn {types : List TypeRef} {property : UInt32 → Prop} :
    (∀ name ∈ classesIn types, property name) ↔
      ∀ type ∈ types, ∀ name ∈ type.classes, property name := by
  induction types with
  | nil => simp [classesIn]
  | cons first rest ih => rw [classesIn, List.forall_mem_append, ih, List.forall_mem_cons]

mutual

/-- The search for a generic parameter finds the leftmost. -/
theorem findParameter_eq_head? : (type : TypeRef) → type.findParameter = type.generics.head?
  | .named _ arguments _ => by
      rw [findParameter, generics, findParameterIn_eq_head? arguments]
  | .parameter _ => rfl
  | .tuple elements => by
      rw [findParameter, generics, findParameterIn_eq_head? elements]
  | .array element _ => by
      rw [findParameter, generics, findParameter_eq_head? element]

theorem findParameterIn_eq_head? : (types : List TypeRef) →
    findParameterIn types = (genericsIn types).head?
  | [] => rfl
  | first :: rest => by
      rw [findParameterIn, genericsIn, List.head?_append, findParameter_eq_head? first,
        findParameterIn_eq_head? rest]
      cases first.generics.head? <;> rfl

end

end TypeRef

/-! ## Texts -/

namespace NameTable

open Extraction (bind_eq_ok exists_bind_iff exists_bind_pure_iff exists_mapM_iff)

variable {table : NameTable} {index : UInt32}

/-- A name is the texts of its segments, joined. -/
theorem qualifiedName_of_chain {segments : List Segment}
    (chain : table.Chain (some index) segments) :
    table.qualifiedName index = .ok (Text.join (segments.map (·.text))) := by
  rw [qualifiedName, segments_of_chain chain]
  rfl

theorem exists_qualifiedName_iff :
    (∃ name, table.qualifiedName index = .ok name) ↔
      ∃ segments, table.Chain (some index) segments := by
  constructor
  · rintro ⟨name, named⟩
    obtain ⟨segments, resolved, -⟩ := bind_eq_ok named
    exact ⟨segments, segments_eq_ok_iff.mp resolved⟩
  · rintro ⟨segments, chain⟩
    exact ⟨_, qualifiedName_of_chain chain⟩

theorem string_eq_ok_iff {text : String} :
    table.string index = .ok text ↔ table.strings[index.toNat]? = some text := by
  rw [string]
  cases table.strings[index.toNat]? <;> simp

/-- Everything that a type mentions has a name. -/
structure Names (table : NameTable) (type : TypeRef) : Prop where
  classes : ∀ name ∈ type.classes, ∃ segments, table.Chain (some name) segments
  generics : ∀ generic ∈ type.generics, ∃ text, table.strings[generic.toNat]? = some text

theorem forall_names {types : List TypeRef} :
    (∀ type ∈ types, table.Names type) ↔
      (∀ name ∈ TypeRef.classesIn types, ∃ segments, table.Chain (some name) segments) ∧
        ∀ generic ∈ TypeRef.genericsIn types, ∃ text, table.strings[generic.toNat]? = some text := by
  rw [TypeRef.forall_classesIn, TypeRef.forall_genericsIn]
  constructor
  · intro each
    exact ⟨fun type listed => (each type listed).classes,
      fun type listed => (each type listed).generics⟩
  · rintro ⟨classes, generics⟩ type listed
    exact ⟨classes type listed, generics type listed⟩

theorem names_named {arguments : List TypeRef} {nullable : Bool} :
    table.Names (.named index arguments nullable) ↔
      (∃ segments, table.Chain (some index) segments) ∧
        ∀ argument ∈ arguments, table.Names argument := by
  constructor
  · intro named
    obtain ⟨chain, classes⟩ := List.forall_mem_cons.mp named.classes
    exact ⟨chain, forall_names.mpr ⟨classes, named.generics⟩⟩
  · rintro ⟨chain, each⟩
    obtain ⟨classes, generics⟩ := forall_names.mp each
    exact ⟨List.forall_mem_cons.mpr ⟨chain, classes⟩, generics⟩

theorem names_tuple {elements : List TypeRef} :
    table.Names (.tuple elements) ↔ ∀ element ∈ elements, table.Names element := by
  rw [forall_names]
  exact ⟨fun named => ⟨named.classes, named.generics⟩, fun ⟨classes, generics⟩ => ⟨classes, generics⟩⟩

theorem names_array {element : TypeRef} {length : UInt64} :
    table.Names (.array element length) ↔ table.Names element :=
  ⟨fun named => ⟨named.classes, named.generics⟩, fun named => ⟨named.classes, named.generics⟩⟩

theorem names_parameter :
    table.Names (.parameter index) ↔ ∃ text, table.strings[index.toNat]? = some text := by
  constructor
  · intro named
    exact named.generics index (List.mem_singleton.mpr rfl)
  · intro spelled
    refine ⟨nofun, ?_⟩
    intro generic listed
    rw [List.mem_singleton.mp listed]
    exact spelled

/-- A type has a text exactly if it nests within the levels and all that it mentions has a
name. -/
theorem exists_typeTextWithin_iff (levels : Nat) (type : TypeRef) :
    (∃ text, table.typeTextWithin levels type = .ok text) ↔
      type.depth ≤ levels ∧ table.Names type := by
  induction levels generalizing type with
  | zero =>
      refine iff_of_false ?_ ?_
      · rintro ⟨text, rendered⟩
        cases rendered
      · rintro ⟨shallow, -⟩
        exact absurd type.depth_pos (Nat.not_lt.mpr shallow)
  | succ levels ih =>
      have below (types : List TypeRef) :
          (∃ texts, types.mapM (table.typeTextWithin levels) = .ok texts) ↔
            TypeRef.depthOf types ≤ levels ∧ ∀ type ∈ types, table.Names type := by
        rw [exists_mapM_iff, TypeRef.depthOf_le_iff]
        simp only [ih, forall_and]
      cases type with
      | parameter name =>
          have shallow : TypeRef.depth (.parameter name) ≤ levels + 1 := Nat.le_add_left 1 levels
          rw [names_parameter, and_iff_right shallow]
          simp only [typeTextWithin, string_eq_ok_iff]
      | named name arguments nullable =>
          have named : (∃ text, table.qualifiedName name = .ok text) ↔
              ∃ segments, table.Chain (some name) segments := exists_qualifiedName_iff
          rw [typeTextWithin, exists_bind_iff, names_named, TypeRef.depth, Nat.succ_le_succ_iff]
          simp only [exists_bind_pure_iff, below, exists_and_right, named]
          exact and_left_comm
      | tuple elements =>
          rw [typeTextWithin, exists_bind_pure_iff, names_tuple, TypeRef.depth,
            Nat.succ_le_succ_iff, below]
      | array element length =>
          rw [typeTextWithin, exists_bind_pure_iff, names_array, TypeRef.depth,
            Nat.succ_le_succ_iff, ih]

end NameTable

end Metadata

end RecordDerive
