import RecordDerive.Metadata.Envelope
import RecordDerive.Proofs.Metadata.Readback
import RecordDerive.Proofs.Wire.UniqueReading

/-!
# Stored metadata stores one description

No two descriptions are stored in the same bytes, and none under two versions.  This is so
of all that can be written and not only of what is accepted when it is read: types may nest
deeper than they are followed, the bytes may be more than one reading may claim, and the
version may be one that is not understood.
-/

namespace RecordDerive.Metadata

open Wire

/-! ## Lengths -/

mutual

/-- The lengths in a type. -/
def TypeRef.lengths : TypeRef → List Nat
  | .named _ arguments _ => arguments.length :: TypeRef.lengthsIn arguments
  | .parameter _ => []
  | .tuple elements => elements.length :: TypeRef.lengthsIn elements
  | .array element _ => element.lengths

/-- The lengths in the types of a list. -/
def TypeRef.lengthsIn : List TypeRef → List Nat
  | [] => []
  | first :: rest => first.lengths ++ TypeRef.lengthsIn rest

end

/-- The lengths in a parameter. -/
def Parameter.lengths (parameter : Parameter) : List Nat :=
  parameter.type.lengths

/-- The lengths in a constructor. -/
def Constructor.lengths (constructor : Constructor) : List Nat :=
  listLengths Parameter.lengths constructor.parameters

/-- The lengths in a name table. -/
def NameTable.lengths (table : NameTable) : List Nat :=
  listLengths textLengths table.strings ++ listLengths (fun _ => []) table.qualified

/-- The lengths of all lists and texts in a description. -/
def Description.lengths (description : Description) : List Nat :=
  listLengths Constructor.lengths description.constructors ++ description.names.lengths

theorem TypeRef.lengthsIn_eq_flatMap (types : List TypeRef) :
    TypeRef.lengthsIn types = types.flatMap TypeRef.lengths := by
  induction types with
  | nil => rfl
  | cons first rest ih => rw [TypeRef.lengthsIn, ih, List.flatMap_cons]

/-! ## Numbers -/

theorem told_word32 (number : UInt32) :
    Told (fun number : UInt32 => writeNat number.toNat) (fun _ => []) number :=
  .ofReads (fun number _ => reads_word32 number) (fun _ => by decide) number

theorem told_word64 (number : UInt64) :
    Told (fun number : UInt64 => writeNat number.toNat) (fun _ => []) number :=
  .ofReads (fun number _ => reads_word64 number) (fun _ => by decide) number

theorem SegmentKind.told (kind : SegmentKind) :
    Told (fun kind : SegmentKind => writeNat kind.tag) (fun _ => []) kind :=
  .ofReads (fun kind _ => kind.reads) (fun _ => by decide) kind

theorem Kind.told (kind : Kind) : Told (fun kind : Kind => writeNat kind.tag) (fun _ => []) kind :=
  .ofReads (fun kind _ => kind.reads) (fun _ => by decide) kind

theorem Version.told (version : Version) : Told Version.write (fun _ => []) version :=
  .ofReads (fun version _ => version.reads) (fun _ => by decide) version

theorem QualifiedName.told (name : QualifiedName) :
    Told QualifiedName.write (fun _ => []) name := by
  refine .ofReads (fun name _ => name.reads) ?_ name
  intro name
  rw [QualifiedName.charges]
  cases name.parent with
  | none => decide
  | some parent => simp [optionalIndexCharges, Charge.peak, Charge.apply, claimLimit]

/-! ## Types -/

theorem TypeRef.writeAll_behind_length (types : List TypeRef) :
    writeNat types.length ++ TypeRef.writeAll types = writeList TypeRef.write types := by
  rw [TypeRef.writeAll_eq_flatMap]
  rfl

theorem TypeRef.lengthsIn_behind_length (types : List TypeRef) :
    types.length :: TypeRef.lengthsIn types = listLengths TypeRef.lengths types := by
  rw [TypeRef.lengthsIn_eq_flatMap]
  rfl

mutual

/-- A type is told by its bytes, however deep it nests. -/
theorem TypeRef.told : (type : TypeRef) → Told TypeRef.write TypeRef.lengths type
  | .named name arguments nullable => {
      apart := by
        intro other rest rest' counted counted' same
        cases other with
        | named name' arguments' nullable' =>
            have parts := ((told_word32 name).pair (.list (TypeRef.toldEach arguments))).pair
              (.bool nullable)
            simp only [TypeRef.lengths, TypeRef.lengthsIn_behind_length] at counted counted'
            simp only [TypeRef.write, TypeRef.writeAll_behind_length, List.append_assoc,
              List.append_cancel_left_eq] at same
            obtain ⟨equal, behind⟩ := parts.apart ((name', arguments'), nullable')
              (by simpa using counted) (by simpa using counted') (by simpa using same)
            cases equal
            exact ⟨rfl, behind⟩
        -- Types of another form have another tag in front.
        | parameter | tuple | array => simp [TypeRef.write, writeNat] at same }
  | .parameter name => {
      apart := by
        intro other rest rest' counted counted' same
        cases other with
        | parameter name' =>
            simp only [TypeRef.write, List.append_assoc, List.append_cancel_left_eq] at same
            obtain ⟨rfl, behind⟩ := (told_word32 name).apart _ counted counted' same
            exact ⟨rfl, behind⟩
        | named | tuple | array => simp [TypeRef.write, writeNat] at same }
  | .tuple elements => {
      apart := by
        intro other rest rest' counted counted' same
        cases other with
        | tuple elements' =>
            simp only [TypeRef.lengths, TypeRef.lengthsIn_behind_length] at counted counted'
            simp only [TypeRef.write, TypeRef.writeAll_behind_length, List.append_assoc,
              List.append_cancel_left_eq] at same
            obtain ⟨rfl, behind⟩ :=
              (Told.list (TypeRef.toldEach elements)).apart elements' counted counted' same
            exact ⟨rfl, behind⟩
        | named | parameter | array => simp [TypeRef.write, writeNat] at same }
  | .array element length => {
      apart := by
        intro other rest rest' counted counted' same
        cases other with
        | array element' length' =>
            simp only [TypeRef.write, List.append_assoc, List.append_cancel_left_eq] at same
            obtain ⟨rfl, later⟩ := (TypeRef.told element).apart element' counted counted' same
            obtain ⟨rfl, behind⟩ := (told_word64 length).apart _ nofun nofun later
            exact ⟨rfl, behind⟩
        | named | parameter | tuple => simp [TypeRef.write, writeNat] at same }

theorem TypeRef.toldEach : (types : List TypeRef) →
    ∀ type ∈ types, Told TypeRef.write TypeRef.lengths type
  | first :: rest, type, member => by
      rcases List.mem_cons.mp member with same | later
      · rw [same]
        exact TypeRef.told first
      · exact TypeRef.toldEach rest type later

end

/-! ## Descriptions -/

theorem Parameter.told (parameter : Parameter) :
    Told Parameter.write Parameter.lengths parameter := by
  have parts := (told_word32 parameter.name).pair (TypeRef.told parameter.type)
  refine parts.image (fun parameter : Parameter => (parameter.name, parameter.type)) ?_
  rintro ⟨name, type⟩ ⟨name', type'⟩ ⟨⟩
  rfl

theorem Constructor.told (constructor : Constructor) :
    Told Constructor.write Constructor.lengths constructor := by
  have parts := (Told.bool constructor.isPrimary).pair
    (.list fun parameter (_ : parameter ∈ constructor.parameters) => parameter.told)
  refine parts.image
    (fun constructor : Constructor => (constructor.isPrimary, constructor.parameters)) ?_
  rintro ⟨isPrimary, parameters⟩ ⟨isPrimary', parameters'⟩ ⟨⟩
  rfl

theorem NameTable.told (table : NameTable) : Told NameTable.write NameTable.lengths table := by
  have parts := (Told.list fun text (_ : text ∈ table.strings) => Told.text text).pair
    (.list fun name (_ : name ∈ table.qualified) => name.told)
  refine parts.image (fun table : NameTable => (table.strings, table.qualified)) ?_
  rintro ⟨strings, qualified⟩ ⟨strings', qualified'⟩ ⟨⟩
  rfl

theorem Description.told (description : Description) :
    Told Description.write Description.lengths description := by
  have parts := ((((told_word32 description.name).pair description.kind.told).pair
    (told_word32 description.flags.bits)).pair
      (.list fun constructor (_ : constructor ∈ description.constructors) => constructor.told)).pair
    description.names.told
  refine parts.image (fun description : Description => ((((description.name,
    description.kind), description.flags.bits), description.constructors), description.names)) ?_
  rintro ⟨name, kind, ⟨bits⟩, constructors, names⟩ ⟨name', kind', ⟨bits'⟩, constructors', names'⟩ ⟨⟩
  rfl

/-- Descriptions and versions can be told from what is stored of them, if all lengths in the
descriptions can be spelled. -/
theorem Description.encodeAt_inj {first second : Description} (version version' : Version)
    (counted : Spellable first.lengths) (counted' : Spellable second.lengths) :
    first.encodeAt version = second.encodeAt version' ↔ first = second ∧ version = version' := by
  constructor
  · intro same
    rw [Description.encodeAt, Description.encodeAt, Envelope.write, Envelope.write,
      List.append_assoc, List.append_assoc] at same
    obtain ⟨versions, payload⟩ := version.told.apart _ nofun nofun (List.append_cancel_left same)
    exact ⟨first.told.eq_of_write_eq counted counted' (writeBytes_injective payload), versions⟩
  · rintro ⟨rfl, rfl⟩
    rfl

/-- Two descriptions that differ below forty levels of tuples, stored under a version that is not
understood. -/
theorem Description.encodeAt_inj_deep :
    let deep := Nat.repeat fun type => .tuple [type, .ofClass 0]
    let first : Description :=
      ⟨0, .struct, .product, [⟨true, [⟨0, deep 40 (.parameter 1)⟩]⟩], ⟨["é"], [⟨none, 0, .type⟩]⟩⟩
    let second : Description :=
      ⟨0, .struct, .product, [⟨true, [⟨0, deep 40 (.parameter 2)⟩]⟩], ⟨["é"], [⟨none, 0, .type⟩]⟩⟩
    let version : Version := ⟨9, 0, 0⟩
    Spellable first.lengths ∧ Spellable second.lengths ∧
      (first.encodeAt version = second.encodeAt version ↔ first = second ∧ version = version) ∧
      first.encodeAt version ≠ second.encodeAt version := by
  intro deep first second version
  have counted : Spellable first.lengths := by decide
  have counted' : Spellable second.lengths := by decide
  have told := Description.encodeAt_inj version version counted counted'
  have differs : first ≠ second := by decide
  exact ⟨counted, counted', told, fun same => differs (told.mp same).1⟩

end RecordDerive.Metadata
