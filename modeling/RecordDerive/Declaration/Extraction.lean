import RecordDerive.Declaration.Basic
import RecordDerive.Declaration.Source

/-!
# Reading declarations out of metadata

A declaration is made of the parameters of the primary constructor, one field
each.  Metadata that cannot be read, or names in it that do not resolve, are
reported under the source's label for the handle; everything else under the name
the metadata gives.
-/

namespace RecordDerive

open Metadata

/-- The causes for which no declaration can be read. -/
inductive ExtractionFault
  | notProduct (name : String) (kind : Kind)
  | genericField (name field parameter : String)
  | unavailable (name : String) (cause : Fault)
  deriving Repr, DecidableEq

namespace ExtractionFault

/-- The name a fault is reported under. -/
def declaration : ExtractionFault → String
  | .notProduct name _ => name
  | .genericField name _ _ => name
  | .unavailable name _ => name

/-- The wording of a fault. -/
def message : ExtractionFault → String
  | .notProduct name kind =>
      "Cannot use @product on " ++ name ++
        ". It can only be used on product structs, found " ++ kind.text
  | .genericField name field parameter =>
      "Cannot use @product on " ++ name ++ ". Field " ++ field ++ " has the generic type " ++
        parameter
  | .unavailable name cause => "Cannot read metadata of " ++ name ++ ": " ++ cause.message

end ExtractionFault

namespace Extraction

/-- A result about names, reported under a label if they do not resolve. -/
def resolved {α : Type} (label : String) (result : Except Fault α) : Except ExtractionFault α :=
  result.mapError (.unavailable label)

/-- The field of a parameter of the named declaration.  A generic parameter in
its type is reported before anything else about the type. -/
def field (label name : String) (names : NameTable) (parameter : Parameter) :
    Except ExtractionFault Field := do
  let fieldName ← resolved label (names.string parameter.name)
  match parameter.type.findParameter with
  | some generic =>
    let genericName ← resolved label (names.string generic)
    throw (.genericField name fieldName genericName)
  | none =>
    let type ← resolved label (names.typeText parameter.type)
    return ⟨fieldName, type⟩

/-- The declaration of a description. -/
def ofDescription {H : Type} (handle : H) (label : String) (description : Description) :
    Except ExtractionFault (Declaration H) := do
  let names := description.names
  let name ← resolved label (names.qualifiedName description.name)
  match description.isProduct, description.primaryConstructor with
  | true, some constructor =>
    let fields ← constructor.parameters.mapM (field label name names)
    let package ← resolved label (names.packageOf description.name)
    let simpleName ← resolved label (names.classPath description.name)
    return ⟨handle, package, simpleName, fields⟩
  | _, _ => throw (.notProduct name description.kind)

end Extraction

/-- The declaration behind a handle. -/
def Source.extract {H : Type} (source : Source H) (handle : H) :
    Except ExtractionFault (Declaration H) := do
  let description ← Extraction.resolved (source.label handle) (source.describe handle)
  Extraction.ofDescription handle (source.label handle) description

end RecordDerive
