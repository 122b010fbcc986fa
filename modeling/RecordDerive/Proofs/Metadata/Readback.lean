import RecordDerive.Metadata.Format
import RecordDerive.Proofs.Wire.Readback

/-!
# Reading descriptions back

For each part of a description: its charges, and the fact that its reader meets
its bytes.  Types are the only part that nests.  Their reader follows a fixed
number of levels, so the fact about a description asks that its types stay within
them.
-/

namespace RecordDerive.Metadata

open Wire

/-! ## Charges -/

mutual

/-- The movements of a type. -/
def TypeRef.charges : TypeRef → List Charge
  | .named _ arguments _ =>
      Charge.claim 4 :: Charge.claim 4 :: Charge.claim 8 ::
        Charge.claim (arguments.length * typeRefSize) :: TypeRef.chargesOf arguments ++
          [Charge.claim 1]
  | .parameter _ => [Charge.claim 4, Charge.claim 4]
  | .tuple elements =>
      .claim 4 :: .claim 8 :: .claim (elements.length * typeRefSize) ::
        TypeRef.chargesOf elements
  | .array element _ => Charge.claim 4 :: element.charges ++ [Charge.claim 8]

/-- The movements of types that are read as items of a list. -/
def TypeRef.chargesOf : List TypeRef → List Charge
  | [] => []
  | first :: rest => Charge.refund typeRefSize :: first.charges ++ TypeRef.chargesOf rest

end

/-- The movements of a parameter. -/
def Parameter.charges (parameter : Parameter) : List Charge :=
  .claim 4 :: parameter.type.charges

/-- The movements of a constructor. -/
def Constructor.charges (constructor : Constructor) : List Charge :=
  .claim 1 :: Charge.ofList parameterSize Parameter.charges constructor.parameters

/-- The movements of an optional index. -/
def optionalIndexCharges : Option UInt32 → List Charge
  | none => [Charge.claim 1]
  | some _ => [Charge.claim 1, Charge.claim 4]

/-- The movements of an entry of the qualified names. -/
def QualifiedName.charges (name : QualifiedName) : List Charge :=
  optionalIndexCharges name.parent ++ [Charge.claim 4, Charge.claim 4]

/-- The movements of a name table. -/
def NameTable.charges (table : NameTable) : List Charge :=
  Charge.ofList stringSize Charge.ofText table.strings ++
    Charge.ofList qualifiedNameSize QualifiedName.charges table.qualified

/-- The movements of a description. -/
def Description.charges (description : Description) : List Charge :=
  Charge.claim 4 :: Charge.claim 4 :: Charge.claim 4 ::
    Charge.ofList constructorSize Constructor.charges description.constructors ++
      description.names.charges

/-- The highest count of claimed bytes on the way through a description. -/
def Description.peak (description : Description) : Nat :=
  Charge.peak 0 description.charges

/-- Whether the types of a description nest no deeper than they are read. -/
def Description.Shallow (description : Description) : Prop :=
  ∀ constructor ∈ description.constructors, ∀ parameter ∈ constructor.parameters,
    parameter.type.depth ≤ TypeRef.maxDepth

/-! ## Types in lists -/

theorem TypeRef.writeAll_eq_flatMap (types : List TypeRef) :
    TypeRef.writeAll types = types.flatMap TypeRef.write := by
  induction types with
  | nil => rfl
  | cons first rest ih => simp [TypeRef.writeAll, ih]

theorem TypeRef.chargesOf_eq_flatMap (types : List TypeRef) :
    TypeRef.chargesOf types =
      types.flatMap fun type => Charge.refund typeRefSize :: type.charges := by
  induction types with
  | nil => rfl
  | cons first rest ih => simp [TypeRef.chargesOf, ih]

theorem TypeRef.depthOf_le_iff (types : List TypeRef) (levels : Nat) :
    TypeRef.depthOf types ≤ levels ↔ ∀ type ∈ types, type.depth ≤ levels := by
  induction types with
  | nil => simp [TypeRef.depthOf]
  | cons first rest ih =>
      rw [TypeRef.depthOf, Nat.max_le, ih]
      simp

/-- Every type nests at least one level. -/
theorem TypeRef.depth_pos (type : TypeRef) : 0 < type.depth := by
  cases type <;> simp [TypeRef.depth]

/-! ## Numbers -/

theorem reads_word16 (number : UInt16) :
    Reads readWord16 (writeNat number.toNat) [Charge.claim 2] True number := by
  have reads : Reads readWord16 (writeNat number.toNat ++ []) ([Charge.claim 2] ++ []) (True ∧ True)
      (UInt16.ofNat number.toNat) :=
    .bind (.nat .word16 number.toNat_lt) (.pure _)
  simpa using reads

theorem reads_word32 (number : UInt32) :
    Reads readWord32 (writeNat number.toNat) [Charge.claim 4] True number := by
  have reads : Reads readWord32 (writeNat number.toNat ++ []) ([Charge.claim 4] ++ []) (True ∧ True)
      (UInt32.ofNat number.toNat) :=
    .bind (.nat .word32 number.toNat_lt) (.pure _)
  simpa using reads

theorem reads_word64 (number : UInt64) :
    Reads readWord64 (writeNat number.toNat) [Charge.claim 8] True number := by
  have reads : Reads readWord64 (writeNat number.toNat ++ []) ([Charge.claim 8] ++ []) (True ∧ True)
      (UInt64.ofNat number.toNat) :=
    .bind (.nat .word64 number.toNat_lt) (.pure _)
  simpa using reads

/-! ## Types -/

theorem TypeRef.write_length_pos (type : TypeRef) : 0 < type.write.length := by
  cases type <;> simp [TypeRef.write, writeNat]

/-- The tag of a type is read first; the rest is left to its form. -/
theorem TypeRef.reads_tag {tag : Nat} (known : tag ≤ 3) :
    Reads (Reader.tag taggedTypeRef) (writeNat tag) [Charge.claim 4] True tag :=
  .tag known (Nat.lt_of_le_of_lt known (by decide))

/-- Types of a list are read if each of them is. -/
theorem TypeRef.reads_list {types : List TypeRef} {levels : Nat}
    (each : ∀ type ∈ types, type.write.length < Word.word64.bound →
      Reads (TypeRef.readWithin levels) type.write type.charges (type.depth ≤ levels) type)
    (short : (writeList TypeRef.write types).length < Word.word64.bound) :
    Reads (Reader.list typeRefSize (TypeRef.readWithin levels))
      (writeNat types.length ++ TypeRef.writeAll types)
      (Charge.claim 8 :: Charge.claim (types.length * typeRefSize) :: TypeRef.chargesOf types)
      (TypeRef.depthOf types ≤ levels) types := by
  rw [TypeRef.writeAll_eq_flatMap, TypeRef.chargesOf_eq_flatMap]
  exact (Reads.list each (fun type _ => type.write_length_pos) short).ofIff
    (TypeRef.depthOf_le_iff types levels).symm

mutual

/-- A type is read if it nests within the levels that are followed. -/
theorem TypeRef.reads : (type : TypeRef) → (levels : Nat) →
    type.write.length < Word.word64.bound →
      Reads (TypeRef.readWithin levels) type.write type.charges (type.depth ≤ levels) type
  | type, 0, _ => by
      have deep : ¬type.depth ≤ 0 := Nat.not_le.mpr type.depth_pos
      exact {
        accepts := fun _ _ shallow => (deep shallow).elim
        refuses := fun _ _ _ _ => .inr ⟨deep, rfl⟩ }
  | .named name arguments nullable, levels + 1, short => by
      have inner : (writeList TypeRef.write arguments).length < Word.word64.bound := by
        simp only [TypeRef.write, TypeRef.writeAll_eq_flatMap, List.length_append] at short
        simp only [writeList, List.length_append]
        omega
      have reads : Reads (TypeRef.readWithin (levels + 1))
          (writeNat 0 ++ (writeNat name.toNat ++
            ((writeNat arguments.length ++ TypeRef.writeAll arguments) ++
              (writeBool nullable ++ []))))
          ([Charge.claim 4] ++ ([Charge.claim 4] ++
            ((Charge.claim 8 :: Charge.claim (arguments.length * typeRefSize) ::
              TypeRef.chargesOf arguments) ++ ([Charge.claim 1] ++ []))))
          (True ∧ True ∧ TypeRef.depthOf arguments ≤ levels ∧ True ∧ True)
          (.named name arguments nullable) :=
        .bind (TypeRef.reads_tag (by decide)) <| .bind (reads_word32 name) <|
          .bind (TypeRef.reads_list (TypeRef.readsEach arguments levels) inner) <|
            .bind (.bool nullable) (.pure _)
      simpa [TypeRef.write, TypeRef.charges, TypeRef.depth] using reads
  | .parameter name, levels + 1, short => by
      have reads : Reads (TypeRef.readWithin (levels + 1))
          (writeNat 1 ++ (writeNat name.toNat ++ []))
          ([Charge.claim 4] ++ ([Charge.claim 4] ++ [])) (True ∧ True ∧ True) (.parameter name) :=
        .bind (TypeRef.reads_tag (by decide)) <| .bind (reads_word32 name) (.pure _)
      simpa [TypeRef.write, TypeRef.charges, TypeRef.depth] using reads
  | .tuple elements, levels + 1, short => by
      have inner : (writeList TypeRef.write elements).length < Word.word64.bound := by
        simp only [TypeRef.write, TypeRef.writeAll_eq_flatMap, List.length_append] at short
        simp only [writeList, List.length_append]
        omega
      have reads : Reads (TypeRef.readWithin (levels + 1))
          (writeNat 2 ++ ((writeNat elements.length ++ TypeRef.writeAll elements) ++ []))
          ([Charge.claim 4] ++ ((.claim 8 :: .claim (elements.length * typeRefSize) ::
            TypeRef.chargesOf elements) ++ []))
          (True ∧ TypeRef.depthOf elements ≤ levels ∧ True) (.tuple elements) :=
        .bind (TypeRef.reads_tag (by decide)) <|
          .bind (TypeRef.reads_list (TypeRef.readsEach elements levels) inner) (.pure _)
      simpa [TypeRef.write, TypeRef.charges, TypeRef.depth] using reads
  | .array element length, levels + 1, short => by
      have inner : element.write.length < Word.word64.bound := by
        simp only [TypeRef.write, List.length_append] at short
        omega
      have reads : Reads (TypeRef.readWithin (levels + 1))
          (writeNat 3 ++ (element.write ++ (writeNat length.toNat ++ [])))
          ([Charge.claim 4] ++ (element.charges ++ ([Charge.claim 8] ++ [])))
          (True ∧ element.depth ≤ levels ∧ True ∧ True) (.array element length) :=
        .bind (TypeRef.reads_tag (by decide)) <|
          .bind (TypeRef.reads element levels inner) <| .bind (reads_word64 length) (.pure _)
      simpa [TypeRef.write, TypeRef.charges, TypeRef.depth] using reads

theorem TypeRef.readsEach : (types : List TypeRef) → (levels : Nat) →
    ∀ type ∈ types, type.write.length < Word.word64.bound →
      Reads (TypeRef.readWithin levels) type.write type.charges (type.depth ≤ levels) type
  | first :: rest, levels, type, member, short => by
      rcases List.mem_cons.mp member with same | later
      · rw [same] at short ⊢
        exact TypeRef.reads first levels short
      · exact TypeRef.readsEach rest levels type later short

end

/-! ## Constructors -/

theorem Parameter.reads {parameter : Parameter}
    (short : parameter.write.length < Word.word64.bound) :
    Reads Parameter.read parameter.write parameter.charges
      (parameter.type.depth ≤ TypeRef.maxDepth) parameter := by
  have inner : parameter.type.write.length < Word.word64.bound := by
    simp only [Parameter.write, List.length_append] at short
    omega
  have reads : Reads Parameter.read
      (writeNat parameter.name.toNat ++ (parameter.type.write ++ []))
      ([Charge.claim 4] ++ (parameter.type.charges ++ []))
      (True ∧ parameter.type.depth ≤ TypeRef.maxDepth ∧ True) parameter :=
    .bind (reads_word32 parameter.name) <|
      .bind (TypeRef.reads parameter.type TypeRef.maxDepth inner) (.pure _)
  simpa [Parameter.write, Parameter.charges] using reads

theorem Parameter.write_length_pos (parameter : Parameter) : 0 < parameter.write.length := by
  rw [Parameter.write, List.length_append]
  exact Nat.add_pos_left (writeNat_length_pos _) _

theorem Constructor.reads {constructor : Constructor}
    (short : constructor.write.length < Word.word64.bound) :
    Reads Constructor.read constructor.write constructor.charges
      (∀ parameter ∈ constructor.parameters, parameter.type.depth ≤ TypeRef.maxDepth)
      constructor := by
  have inner : (writeList Parameter.write constructor.parameters).length <
      Word.word64.bound := by
    simp only [Constructor.write, List.length_append] at short
    omega
  have reads : Reads Constructor.read
      (writeBool constructor.isPrimary ++
        (writeList Parameter.write constructor.parameters ++ []))
      ([Charge.claim 1] ++
        (Charge.ofList parameterSize Parameter.charges constructor.parameters ++ []))
      (True ∧ (∀ parameter ∈ constructor.parameters,
        parameter.type.depth ≤ TypeRef.maxDepth) ∧ True) constructor :=
    .bind (.bool constructor.isPrimary) <|
      .bind (.list (fun _ _ => Parameter.reads) (fun parameter _ => parameter.write_length_pos)
        inner) (.pure _)
  simpa [Constructor.write, Constructor.charges] using reads

theorem Constructor.write_length_pos (constructor : Constructor) :
    0 < constructor.write.length := by
  rw [Constructor.write, List.length_append]
  exact Nat.add_pos_left Nat.one_pos _

/-! ## Names -/

theorem SegmentKind.reads (kind : SegmentKind) :
    Reads SegmentKind.read (writeNat kind.tag) [Charge.claim 4] True kind := by
  have reads : Reads SegmentKind.read (writeNat kind.tag ++ []) ([Charge.claim 4] ++ [])
      (True ∧ True) kind :=
    .bind (.tag (by cases kind <;> decide) (by cases kind <;> decide))
      (by cases kind <;> exact .pure _)
  simpa using reads

theorem reads_optionalIndex (index : Option UInt32) :
    Reads (Reader.optional readWord32) (writeOptionalIndex index) (optionalIndexCharges index)
      True index := by
  cases index with
  | none => exact .optionalNone readWord32
  | some index => exact .optionalSome (reads_word32 index)

theorem QualifiedName.reads (name : QualifiedName) :
    Reads QualifiedName.read name.write name.charges True name := by
  have reads : Reads QualifiedName.read
      (writeOptionalIndex name.parent ++
        (writeNat name.short.toNat ++ (writeNat name.kind.tag ++ [])))
      (optionalIndexCharges name.parent ++ ([Charge.claim 4] ++ ([Charge.claim 4] ++ [])))
      (True ∧ True ∧ True ∧ True) name :=
    .bind (reads_optionalIndex name.parent) <| .bind (reads_word32 name.short) <|
      .bind (SegmentKind.reads name.kind) (.pure _)
  simpa [QualifiedName.write, QualifiedName.charges] using reads

theorem QualifiedName.write_length_pos (name : QualifiedName) : 0 < name.write.length := by
  rw [QualifiedName.write, List.length_append]
  exact Nat.add_pos_right _ (writeNat_length_pos _)

theorem writeText_length_pos (text : String) : 0 < (writeText text).length := by
  rw [writeText, writeBytes, List.length_append]
  exact Nat.add_pos_left (writeNat_length_pos _) _

theorem NameTable.reads {table : NameTable} (short : table.write.length < Word.word64.bound) :
    Reads NameTable.read table.write table.charges True table := by
  rw [NameTable.write, List.length_append] at short
  have reads : Reads NameTable.read
      (writeList writeText table.strings ++
        (writeList QualifiedName.write table.qualified ++ []))
      (Charge.ofList stringSize Charge.ofText table.strings ++
        (Charge.ofList qualifiedNameSize QualifiedName.charges table.qualified ++ []))
      ((∀ text ∈ table.strings, True) ∧ (∀ name ∈ table.qualified, True) ∧ True) table :=
    .bind (.list (fun _ _ => .text) (fun text _ => writeText_length_pos text) (by omega)) <|
      .bind (.list (fun name _ _ => name.reads) (fun name _ => name.write_length_pos)
        (by omega)) (.pure _)
  simpa [NameTable.write, NameTable.charges] using reads

/-! ## Descriptions -/

theorem Kind.reads (kind : Kind) :
    Reads Kind.read (writeNat kind.tag) [Charge.claim 4] True kind := by
  have reads : Reads Kind.read (writeNat kind.tag ++ []) ([Charge.claim 4] ++ [])
      (True ∧ True) kind :=
    .bind (.tag (by cases kind <;> decide) (by cases kind <;> decide))
      (by cases kind <;> exact .pure _)
  simpa using reads

/-- A description is read back if its types nest within the levels that are
followed and its charges stay under the limit. -/
theorem Description.reads {description : Description}
    (short : description.write.length < Word.word64.bound) :
    Reads Description.read description.write description.charges description.Shallow
      description := by
  simp only [Description.write, List.length_append] at short
  have reads : Reads Description.read
      (writeNat description.name.toNat ++ (writeNat description.kind.tag ++
        (writeNat description.flags.bits.toNat ++
          (writeList Constructor.write description.constructors ++
            (description.names.write ++ [])))))
      ([Charge.claim 4] ++ ([Charge.claim 4] ++ ([Charge.claim 4] ++
        (Charge.ofList constructorSize Constructor.charges description.constructors ++
          (description.names.charges ++ [])))))
      (True ∧ True ∧ True ∧ description.Shallow ∧ True ∧ True) description :=
    .bind (reads_word32 description.name) <| .bind description.kind.reads <|
      .bind (reads_word32 description.flags.bits) <|
        .bind (.list (fun _ _ => Constructor.reads)
          (fun constructor _ => constructor.write_length_pos) (by omega)) <|
          .bind (NameTable.reads (by omega)) (.pure _)
  simpa [Description.write, Description.charges] using reads

theorem Version.reads (version : Version) :
    Reads Version.read version.write [.claim 2, .claim 2, .claim 2] True version := by
  have reads : Reads Version.read
      (writeNat version.major.toNat ++ (writeNat version.minor.toNat ++
        (writeNat version.patch.toNat ++ [])))
      ([Charge.claim 2] ++ ([Charge.claim 2] ++ ([Charge.claim 2] ++ [])))
      (True ∧ True ∧ True ∧ True) version :=
    .bind (reads_word16 version.major) <| .bind (reads_word16 version.minor) <|
      .bind (reads_word16 version.patch) (.pure _)
  simpa [Version.write] using reads

end RecordDerive.Metadata
