import RecordDerive.Metadata.Envelope

/-!
# Where metadata comes from

A source answers for the handles its host gives out.  A registry is a source
that holds encoded metadata: every write is kept under the number handed out for
it, with the label it is reported under.
-/

namespace RecordDerive

open Metadata

/-- A source of metadata. -/
structure Source (H : Type) where
  /-- The description behind a handle. -/
  describe : H → Except Fault Description
  /-- The name of a handle where its description cannot be read. -/
  label : H → String

/-- A source that knows its handles by their texts alone. -/
def Source.ofDescriptions {H : Type} [ToString H] (describe : H → Except Fault Description) :
    Source H :=
  ⟨describe, toString⟩

/-- A handle given out by a registry. -/
structure DeclarationId where
  number : UInt32
  deriving Repr, DecidableEq, Hashable

/-- The text of a handle. -/
def DeclarationId.text (id : DeclarationId) : String :=
  "#" ++ toString id.number.toNat

/-- What a registry holds under a handle; nothing if the declaration was seen
without metadata. -/
structure RegistryEntry where
  label : String
  bytes : Option (List UInt8)
  deriving Repr, DecidableEq

/-- Encoded metadata by handle. -/
structure Registry where
  entries : List RegistryEntry
  deriving Repr, DecidableEq

namespace Registry

/-- A registry that holds nothing. -/
def empty : Registry := ⟨[]⟩

/-- The entry under a handle. -/
def entry? (registry : Registry) (id : DeclarationId) : Option RegistryEntry :=
  registry.entries[id.number.toNat]?

/-- Give out the next handle for an entry. -/
def push (registry : Registry) (entry : RegistryEntry) : DeclarationId × Registry :=
  (⟨UInt32.ofNat registry.entries.length⟩, ⟨registry.entries ++ [entry]⟩)

/-- Hold a description under its qualified name, which must resolve. -/
def register (registry : Registry) (description : Description) :
    Except Fault (DeclarationId × Registry) := do
  let label ← description.names.qualifiedName description.name
  return registry.push ⟨label, some description.encode⟩

/-- Hold bytes under a label; they are looked at when they are read. -/
def insertRaw (registry : Registry) (label : String) (bytes : List UInt8) :
    DeclarationId × Registry :=
  registry.push ⟨label, some bytes⟩

/-- Hold a declaration that was seen without metadata. -/
def insertMissing (registry : Registry) (label : String) : DeclarationId × Registry :=
  registry.push ⟨label, none⟩

/-- Replace what is held under a handle.  An absent handle is reported before a
name that does not resolve. -/
def update (registry : Registry) (id : DeclarationId) (description : Description) :
    Except Fault Registry := do
  match registry.entry? id with
  | none => throw (.missing id.text)
  | some _ =>
    let label ← description.names.qualifiedName description.name
    return ⟨registry.entries.set id.number.toNat ⟨label, some description.encode⟩⟩

/-- The description under a handle. -/
def describe (registry : Registry) (id : DeclarationId) : Except Fault Description :=
  match registry.entry? id with
  | none => .error (.missing id.text)
  | some ⟨label, none⟩ => .error (.missing label)
  | some ⟨_, some bytes⟩ => Description.decode bytes

/-- The label under a handle, or the handle's own text. -/
def label (registry : Registry) (id : DeclarationId) : String :=
  match registry.entry? id with
  | some entry => entry.label
  | none => id.text

/-- A registry as a source. -/
def source (registry : Registry) : Source DeclarationId :=
  ⟨registry.describe, registry.label⟩

end Registry

end RecordDerive
