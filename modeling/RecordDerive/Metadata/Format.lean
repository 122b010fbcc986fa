import RecordDerive.Metadata.Description
import RecordDerive.Wire.Reader

/-!
# The byte format of class descriptions

Fields follow one another in order, lists and texts behind their lengths, and
alternatives behind their tags.  The sizes here are what an item of each list
takes in memory; a reader claims them for a whole list before its first item.

References to types are read to a fixed number of levels, and the check comes
before anything of the level is read.
-/

namespace RecordDerive.Metadata

open Wire

/-! ## Writing -/

/-- An optional index behind a byte that tells whether it is there. -/
def writeOptionalIndex : Option UInt32 → List UInt8
  | none => [0]
  | some index => 1 :: writeNat index.toNat

mutual

/-- A type behind the tag of its form. -/
def TypeRef.write : TypeRef → List UInt8
  | .named name arguments nullable =>
      writeNat 0 ++ writeNat name.toNat ++
        (writeNat arguments.length ++ TypeRef.writeAll arguments) ++ writeBool nullable
  | .parameter name => writeNat 1 ++ writeNat name.toNat
  | .tuple elements => writeNat 2 ++ (writeNat elements.length ++ TypeRef.writeAll elements)
  | .array element length => writeNat 3 ++ element.write ++ writeNat length.toNat

/-- Types one after another. -/
def TypeRef.writeAll : List TypeRef → List UInt8
  | [] => []
  | first :: rest => first.write ++ TypeRef.writeAll rest

end

/-- A parameter: its name and type. -/
def Parameter.write (parameter : Parameter) : List UInt8 :=
  writeNat parameter.name.toNat ++ parameter.type.write

/-- A constructor: its mark and parameters. -/
def Constructor.write (constructor : Constructor) : List UInt8 :=
  writeBool constructor.isPrimary ++ writeList Parameter.write constructor.parameters

/-- The tag of a kind of segment. -/
def SegmentKind.tag : SegmentKind → Nat
  | .package => 0
  | .type => 1

/-- An entry of the qualified names. -/
def QualifiedName.write (name : QualifiedName) : List UInt8 :=
  writeOptionalIndex name.parent ++ writeNat name.short.toNat ++ writeNat name.kind.tag

/-- A name table: its strings and qualified names. -/
def NameTable.write (table : NameTable) : List UInt8 :=
  writeList writeText table.strings ++ writeList QualifiedName.write table.qualified

/-- A class description. -/
def Description.write (description : Description) : List UInt8 :=
  writeNat description.name.toNat ++ writeNat description.kind.tag ++
    writeNat description.flags.bits.toNat ++
    writeList Constructor.write description.constructors ++ description.names.write

/-- A version: its three numbers. -/
def Version.write (version : Version) : List UInt8 :=
  writeNat version.major.toNat ++ writeNat version.minor.toNat ++ writeNat version.patch.toNat

/-! ## Reading -/

/-- The types that begin with a tag, as faults name them. -/
def taggedKind : Tagged := ⟨"ClassKind", 6⟩

/-- The type of segment kinds, as faults name it. -/
def taggedSegmentKind : Tagged := ⟨"NameKind", 1⟩

/-- The type of type references, as faults name it. -/
def taggedTypeRef : Tagged := ⟨"TypeRef", 3⟩

/-- The size of a string in a list. -/
def stringSize : Nat := 24

/-- The size of a qualified name in a list. -/
def qualifiedNameSize : Nat := 16

/-- The size of a constructor in a list. -/
def constructorSize : Nat := 32

/-- The size of a parameter in a list. -/
def parameterSize : Nat := 40

/-- The size of a type reference in a list. -/
def typeRefSize : Nat := 32

/-- An index or a set of flags. -/
def readWord32 : Reader UInt32 := do
  return UInt32.ofNat (← Reader.nat .word32)

/-- A number of a version. -/
def readWord16 : Reader UInt16 := do
  return UInt16.ofNat (← Reader.nat .word16)

/-- The length of an array. -/
def readWord64 : Reader UInt64 := do
  return UInt64.ofNat (← Reader.nat .word64)

/-- A type that nests at most the given number of levels. -/
def TypeRef.readWithin : Nat → Reader TypeRef
  | 0 => throw .nestedTooDeeply
  | levels + 1 => do
    match ← Reader.tag taggedTypeRef with
    | 0 =>
      let name ← readWord32
      let arguments ← Reader.list typeRefSize (TypeRef.readWithin levels)
      let nullable ← Reader.bool
      return .named name arguments nullable
    | 1 => return .parameter (← readWord32)
    | 2 => return .tuple (← Reader.list typeRefSize (TypeRef.readWithin levels))
    | _ =>
      let element ← TypeRef.readWithin levels
      let length ← readWord64
      return .array element length

/-- A type. -/
def TypeRef.read : Reader TypeRef :=
  TypeRef.readWithin TypeRef.maxDepth

/-- A parameter. -/
def Parameter.read : Reader Parameter := do
  let name ← readWord32
  let type ← TypeRef.read
  return ⟨name, type⟩

/-- A constructor. -/
def Constructor.read : Reader Constructor := do
  let isPrimary ← Reader.bool
  let parameters ← Reader.list parameterSize Parameter.read
  return ⟨isPrimary, parameters⟩

/-- A kind of segment. -/
def SegmentKind.read : Reader SegmentKind := do
  match ← Reader.tag taggedSegmentKind with
  | 0 => return .package
  | _ => return .type

/-- An entry of the qualified names. -/
def QualifiedName.read : Reader QualifiedName := do
  let parent ← Reader.optional readWord32
  let short ← readWord32
  let kind ← SegmentKind.read
  return ⟨parent, short, kind⟩

/-- A name table. -/
def NameTable.read : Reader NameTable := do
  let strings ← Reader.list stringSize Reader.text
  let qualified ← Reader.list qualifiedNameSize QualifiedName.read
  return ⟨strings, qualified⟩

/-- A kind of declaration. -/
def Kind.read : Reader Kind := do
  match ← Reader.tag taggedKind with
  | 0 => return .struct
  | 1 => return .tupleStruct
  | 2 => return .unitStruct
  | 3 => return .enum
  | 4 => return .union
  | 5 => return .trait
  | _ => return .object

/-- A class description. -/
def Description.read : Reader Description := do
  let name ← readWord32
  let kind ← Kind.read
  let flags ← readWord32
  let constructors ← Reader.list constructorSize Constructor.read
  let names ← NameTable.read
  return ⟨name, kind, ⟨flags⟩, constructors, names⟩

/-- A version. -/
def Version.read : Reader Version := do
  let major ← readWord16
  let minor ← readWord16
  let patch ← readWord16
  return ⟨major, minor, patch⟩

end RecordDerive.Metadata
