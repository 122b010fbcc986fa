import Mathlib.Data.List.Forall2
import RecordDerive.Declaration.Validation

/-!
# What an accepted declaration tells

A declaration that was accepted was read out of a description, all of whose names
it uses resolve, and has no more fields than a tuple may have.
-/

namespace RecordDerive

open Metadata

namespace Extraction

theorem bind_eq_ok {ε α β : Type} {first : Except ε α} {next : α → Except ε β} {result : β}
    (succeeded : first >>= next = .ok result) :
    ∃ value, first = .ok value ∧ next value = .ok result := by
  cases first with
  | error fault => cases succeeded
  | ok value => exact ⟨value, rfl, succeeded⟩

theorem bind_eq_error {ε α β : Type} {first : Except ε α} {next : α → Except ε β} {fault : ε}
    (failed : first >>= next = .error fault) :
    first = .error fault ∨ ∃ value, first = .ok value ∧ next value = .error fault := by
  cases first with
  | error earlier =>
      cases failed
      exact .inl rfl
  | ok value => exact .inr ⟨value, rfl, failed⟩

theorem exists_bind_iff {ε α β : Type} {first : Except ε α} {next : α → Except ε β} :
    (∃ result, first >>= next = .ok result) ↔
      ∃ value, first = .ok value ∧ ∃ result, next value = .ok result := by
  constructor
  · rintro ⟨result, succeeded⟩
    obtain ⟨value, found, last⟩ := bind_eq_ok succeeded
    exact ⟨value, found, result, last⟩
  · rintro ⟨value, rfl, result, last⟩
    exact ⟨result, last⟩

theorem exists_bind_pure_iff {ε α β : Type} {first : Except ε α} {image : α → β} :
    (∃ result, (first >>= fun value => pure (image value)) = .ok result) ↔
      ∃ value, first = .ok value := by
  rw [exists_bind_iff]
  exact exists_congr fun value => and_iff_left ⟨image value, rfl⟩

theorem mapError_eq_ok {ε δ α : Type} {image : ε → δ} {result : Except ε α} {value : α}
    (succeeded : result.mapError image = .ok value) : result = .ok value := by
  cases result with
  | error fault => cases succeeded
  | ok found =>
      cases succeeded
      rfl

theorem mapError_eq_error {ε δ α : Type} {image : ε → δ} {result : Except ε α} {fault : δ}
    (failed : result.mapError image = .error fault) :
    ∃ cause, result = .error cause ∧ image cause = fault := by
  cases result with
  | error cause => exact ⟨cause, rfl, Except.error.inj failed⟩
  | ok value => cases failed

/-- Where every item has a result of some kind, so have all of them. -/
theorem exists_mapM {ε α β : Type} {image : α → Except ε β} {kind : β → Prop} {items : List α}
    (each : ∀ item ∈ items, ∃ result, image item = .ok result ∧ kind result) :
    ∃ results, items.mapM image = .ok results ∧ results.length = items.length ∧
      ∀ result ∈ results, kind result := by
  induction items with
  | nil => exact ⟨[], rfl, rfl, List.forall_mem_nil _⟩
  | cons first rest ih =>
      obtain ⟨⟨result, here, good⟩, later⟩ := List.forall_mem_cons.mp each
      obtain ⟨results, found, length, all⟩ := ih later
      refine ⟨result :: results, ?_, congrArg (· + 1) length, List.forall_mem_cons.mpr ⟨good, all⟩⟩
      rw [List.mapM_cons, here, found]
      rfl

theorem forall₂_of_mapM {ε α β : Type} {image : α → Except ε β} {list : List α} {results : List β}
    (succeeded : list.mapM image = .ok results) :
    List.Forall₂ (fun element result => image element = .ok result) list results := by
  induction list generalizing results with
  | nil =>
      cases succeeded
      exact .nil
  | cons first rest ih =>
      rw [List.mapM_cons] at succeeded
      obtain ⟨head, found, succeeded⟩ := bind_eq_ok succeeded
      obtain ⟨tail, others, succeeded⟩ := bind_eq_ok succeeded
      cases succeeded
      exact .cons found (ih others)

/-- Results for all items are a matter of each item. -/
theorem exists_mapM_iff {ε α β : Type} {image : α → Except ε β} {items : List α} :
    (∃ results, items.mapM image = .ok results) ↔
      ∀ item ∈ items, ∃ result, image item = .ok result := by
  constructor
  · rintro ⟨results, succeeded⟩
    have each := forall₂_of_mapM succeeded
    clear succeeded
    induction each with
    | nil => exact List.forall_mem_nil _
    | cons here _ ih => exact List.forall_mem_cons.mpr ⟨⟨_, here⟩, ih⟩
  · intro each
    have kinds : ∀ item ∈ items, ∃ result, image item = .ok result ∧ True := fun item listed =>
      (each item listed).imp fun _ found => ⟨found, trivial⟩
    obtain ⟨results, found, -⟩ := exists_mapM kinds
    exact ⟨results, found⟩

/-- What is reported for all items is reported for one of them. -/
theorem mapM_eq_error {ε α β : Type} {image : α → Except ε β} {items : List α} {fault : ε}
    (failed : items.mapM image = .error fault) : ∃ item ∈ items, image item = .error fault := by
  induction items with
  | nil => cases failed
  | cons first rest ih =>
      rw [List.mapM_cons] at failed
      rcases bind_eq_error failed with here | ⟨result, -, failed⟩
      · exact ⟨first, List.mem_cons_self, here⟩
      · rcases bind_eq_error failed with later | ⟨results, -, last⟩
        · obtain ⟨item, listed, found⟩ := ih later
          exact ⟨item, List.mem_cons_of_mem first listed, found⟩
        · cases last

theorem toOption_map_eq_some {ε α β : Type} {result : Except ε α} {image : α → β} {found : β}
    (same : result.toOption.map image = some found) :
    ∃ value, result = .ok value ∧ image value = found := by
  cases result with
  | error fault => cases same
  | ok value => exact ⟨value, rfl, Option.some.inj same⟩

variable {H : Type} {handle : H} {label : String} {description : Description}
  {declaration : Declaration H}

/-- Where a declaration comes from: the handle it was asked for, and the resolved
names and primary constructor of a product. -/
theorem ofDescription_eq_ok
    (extracted : ofDescription handle label description = .ok declaration) :
    ∃ name constructor,
      description.names.qualifiedName description.name = .ok name ∧
      description.isProduct = true ∧ description.primaryConstructor = some constructor ∧
      constructor.parameters.mapM (field label name description.names) =
        .ok declaration.fields ∧
      description.names.packageOf description.name = .ok declaration.package ∧
      description.names.classPath description.name = .ok declaration.name ∧
      declaration.handle = handle := by
  obtain ⟨name, named, extracted⟩ := bind_eq_ok extracted
  split at extracted
  next constructor isProduct primary =>
    obtain ⟨fields, fieldsFound, extracted⟩ := bind_eq_ok extracted
    obtain ⟨package, packageFound, extracted⟩ := bind_eq_ok extracted
    obtain ⟨simpleName, nameFound, extracted⟩ := bind_eq_ok extracted
    cases extracted
    exact ⟨name, constructor, mapError_eq_ok named, isProduct, primary, fieldsFound,
      mapError_eq_ok packageFound, mapError_eq_ok nameFound, rfl⟩
  next other => cases extracted

/-- A product with a name and a constructor fails by its parameters only: once they are read,
its package and its own name are found. -/
theorem ofDescription_of_segments {segments : List Segment} {constructor : Constructor}
    (resolved : description.names.segments description.name = .ok segments)
    (isProduct : description.isProduct = true)
    (primary : description.primaryConstructor = some constructor) :
    ofDescription handle label description =
      (constructor.parameters.mapM
        (field label (Text.join (segments.map (·.text))) description.names)).map fun fields =>
          ⟨handle, NameTable.joinKind .package segments, NameTable.joinKind .type segments,
            fields⟩ := by
  have named : description.names.qualifiedName description.name =
      .ok (Text.join (segments.map (·.text))) := by
    rw [NameTable.qualifiedName, resolved]
    rfl
  rw [ofDescription, named, isProduct, primary, NameTable.packageOf, NameTable.classPath, resolved]
  simp only [Extraction.resolved, Except.mapError, bind, Except.bind]
  cases constructor.parameters.mapM
    (field label (Text.join (segments.map (·.text))) description.names) <;> rfl

end Extraction

namespace Source

open Extraction

variable {H : Type} {source : Source H} {handle : H} {declaration : Declaration H}

theorem extract_eq_ok (extracted : source.extract handle = .ok declaration) :
    ∃ description, source.describe handle = .ok description ∧
      ofDescription handle (source.label handle) description = .ok declaration := by
  obtain ⟨description, described, extracted⟩ := bind_eq_ok extracted
  exact ⟨description, mapError_eq_ok described, extracted⟩

/-- A declaration that is accepted has the handle it was asked for, and fits a
tuple. -/
theorem accept_eq_ok (accepted : source.accept handle = .ok declaration) :
    source.extract handle = .ok declaration ∧ declaration.handle = handle ∧
      declaration.arity ≤ maxArity := by
  obtain ⟨candidate, extracted, validated⟩ := bind_eq_ok accepted
  have extracted := mapError_eq_ok extracted
  have validated := mapError_eq_ok validated
  rw [Declaration.validate] at validated
  split at validated
  next fits =>
    cases validated
    obtain ⟨description, -, read⟩ := extract_eq_ok extracted
    obtain ⟨-, -, -, -, -, -, -, -, same⟩ := ofDescription_eq_ok read
    exact ⟨extracted, same, fits⟩
  next exceeds => cases validated

/-- A handle that is not accepted has no declaration or one with too many fields. -/
theorem accept_eq_error {fault : DeclarationFault}
    (rejected : source.accept handle = .error fault) :
    (∃ cause, source.extract handle = .error cause ∧ fault = .extraction cause) ∨
      ∃ declaration, source.extract handle = .ok declaration ∧ maxArity < declaration.arity ∧
        fault = .validation
          (.tooManyFields declaration.qualifiedName declaration.arity maxArity) := by
  rcases bind_eq_error rejected with unread | ⟨declaration, extracted, refused⟩
  · obtain ⟨cause, failed, same⟩ := mapError_eq_error unread
    exact .inl ⟨cause, failed, same.symm⟩
  · obtain ⟨cause, failed, same⟩ := mapError_eq_error refused
    rw [Declaration.validate] at failed
    split at failed
    next fits => cases failed
    next exceeds =>
      cases failed
      exact .inr ⟨declaration, mapError_eq_ok extracted, Nat.not_le.mp exceeds, same.symm⟩

end Source

end RecordDerive
