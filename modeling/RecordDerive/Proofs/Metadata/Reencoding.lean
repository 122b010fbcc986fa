import Mathlib.Control.Monad.Basic
import RecordDerive.Proofs.Metadata.RoundTrip
import RecordDerive.Proofs.Wire.Consumption

/-!
# What is read can be written back

Metadata may come from writers that spell integers at length.  Each part of a
description that is read accounts for its bytes and claims, and its types nest within
the levels that are followed.  So the description can be stored again, in no more bytes,
and read back.
-/

namespace RecordDerive.Metadata

open Wire
open Wire.Reader (bind_eq_ok)

/-! ## Numbers -/

theorem accounts_word16 :
    Accounts readWord16 (fun number => writeNat number.toNat) (fun _ => [Charge.claim 2])
      fun _ => True :=
  (Accounts.nat .word16).map fun value (small : value < 65536) => by
    simp [UInt16.toNat_ofNat', Nat.mod_eq_of_lt small, Word.size]

theorem accounts_word32 :
    Accounts readWord32 (fun number => writeNat number.toNat) (fun _ => [Charge.claim 4])
      fun _ => True :=
  (Accounts.nat .word32).map fun value (small : value < 4294967296) => by
    simp [UInt32.toNat_ofNat', Nat.mod_eq_of_lt small, Word.size]

theorem accounts_word64 :
    Accounts readWord64 (fun number => writeNat number.toNat) (fun _ => [Charge.claim 8])
      fun _ => True :=
  (Accounts.nat .word64).map fun value (small : value < 18446744073709551616) => by
    simp [UInt64.toNat_ofNat', Nat.mod_eq_of_lt small, Word.size]

/-! ## Types -/

/-- A type that is read nests within the levels that are followed. -/
theorem TypeRef.accounts (levels : Nat) :
    Accounts (TypeRef.readWithin levels) TypeRef.write TypeRef.charges (·.depth ≤ levels) where
  account := by
    induction levels with
    | zero =>
        intro feed after type read
        cases read
    | succ levels ih =>
        have inner := Accounts.mk ih
        intro feed after type read
        obtain ⟨tag, tagged, tagRead, read⟩ := bind_eq_ok read
        obtain ⟨known, start⟩ := (Accounts.tag taggedTypeRef).account tagRead
        match tag, known with
        | 0, _ =>
            obtain ⟨name, named, nameRead, read⟩ := bind_eq_ok read
            obtain ⟨arguments, listed, argumentsRead, read⟩ := bind_eq_ok read
            obtain ⟨nullable, marked, nullableRead, read⟩ := bind_eq_ok read
            cases read
            obtain ⟨-, nameConsumed⟩ := accounts_word32.account nameRead
            obtain ⟨shallow, argumentsConsumed⟩ := (inner.list typeRefSize).account argumentsRead
            obtain ⟨-, nullableConsumed⟩ := Accounts.bool.account nullableRead
            have consumed :=
              start.trans (nameConsumed.trans (argumentsConsumed.trans nullableConsumed))
            constructor
            · exact Nat.succ_le_succ ((TypeRef.depthOf_le_iff arguments levels).mpr shallow)
            · rw [TypeRef.write, TypeRef.writeAll_eq_flatMap, TypeRef.charges,
                TypeRef.chargesOf_eq_flatMap]
              simpa [writeList, Charge.ofList, Nat.add_assoc] using consumed
        | 1, _ =>
            obtain ⟨name, named, nameRead, read⟩ := bind_eq_ok read
            cases read
            obtain ⟨-, nameConsumed⟩ := accounts_word32.account nameRead
            constructor
            · exact Nat.succ_le_succ (Nat.zero_le levels)
            · simpa [TypeRef.write, TypeRef.charges] using start.trans nameConsumed
        | 2, _ =>
            obtain ⟨elements, listed, elementsRead, read⟩ := bind_eq_ok read
            cases read
            obtain ⟨shallow, elementsConsumed⟩ := (inner.list typeRefSize).account elementsRead
            constructor
            · exact Nat.succ_le_succ ((TypeRef.depthOf_le_iff elements levels).mpr shallow)
            · rw [TypeRef.write, TypeRef.writeAll_eq_flatMap, TypeRef.charges,
                TypeRef.chargesOf_eq_flatMap]
              simpa [writeList, Charge.ofList] using start.trans elementsConsumed
        | 3, _ =>
            obtain ⟨element, nested, elementRead, read⟩ := bind_eq_ok read
            obtain ⟨length, measured, lengthRead, read⟩ := bind_eq_ok read
            cases read
            obtain ⟨shallow, elementConsumed⟩ := inner.account elementRead
            obtain ⟨-, lengthConsumed⟩ := accounts_word64.account lengthRead
            constructor
            · exact Nat.succ_le_succ shallow
            · have consumed := start.trans (elementConsumed.trans lengthConsumed)
              simpa [TypeRef.write, TypeRef.charges, Nat.add_assoc] using consumed

/-! ## Constructors -/

theorem Parameter.accounts :
    Accounts Parameter.read Parameter.write Parameter.charges
      (·.type.depth ≤ TypeRef.maxDepth) where
  account := by
    intro feed after parameter read
    obtain ⟨name, named, nameRead, read⟩ := bind_eq_ok read
    obtain ⟨type, typed, typeRead, read⟩ := bind_eq_ok read
    cases read
    obtain ⟨-, nameConsumed⟩ := accounts_word32.account nameRead
    obtain ⟨shallow, typeConsumed⟩ := (TypeRef.accounts TypeRef.maxDepth).account typeRead
    refine ⟨shallow, ?_⟩
    simpa [Parameter.write, Parameter.charges] using nameConsumed.trans typeConsumed

theorem Constructor.accounts :
    Accounts Constructor.read Constructor.write Constructor.charges
      fun constructor => ∀ parameter ∈ constructor.parameters,
        parameter.type.depth ≤ TypeRef.maxDepth where
  account := by
    intro feed after found read
    obtain ⟨isPrimary, marked, markRead, read⟩ := bind_eq_ok read
    obtain ⟨parameters, listed, parametersRead, read⟩ := bind_eq_ok read
    cases read
    obtain ⟨-, markConsumed⟩ := Accounts.bool.account markRead
    obtain ⟨shallow, parametersConsumed⟩ :=
      (Parameter.accounts.list parameterSize).account parametersRead
    refine ⟨shallow, ?_⟩
    simpa [Constructor.write, Constructor.charges] using markConsumed.trans parametersConsumed

/-! ## Names -/

theorem SegmentKind.accounts :
    Accounts SegmentKind.read (fun kind => writeNat kind.tag) (fun _ => [Charge.claim 4])
      fun _ => True where
  account := by
    intro feed after kind read
    obtain ⟨tag, tagged, tagRead, read⟩ := bind_eq_ok read
    obtain ⟨known, consumed⟩ := (Accounts.tag taggedSegmentKind).account tagRead
    match tag, known with
    | 0, _ | 1, _ =>
        cases read
        exact ⟨trivial, consumed⟩

theorem accounts_optionalIndex :
    Accounts (Reader.optional readWord32) writeOptionalIndex optionalIndexCharges
      fun _ => True where
  account := by
    intro feed after index read
    obtain ⟨-, consumed⟩ := accounts_word32.optional.account read
    cases index with
    | none => exact ⟨trivial, consumed⟩
    | some index => exact ⟨trivial, consumed⟩

theorem QualifiedName.accounts :
    Accounts QualifiedName.read QualifiedName.write QualifiedName.charges fun _ => True where
  account := by
    intro feed after name read
    obtain ⟨parent, enclosed, parentRead, read⟩ := bind_eq_ok read
    obtain ⟨short, named, shortRead, read⟩ := bind_eq_ok read
    obtain ⟨kind, marked, kindRead, read⟩ := bind_eq_ok read
    cases read
    obtain ⟨-, parentConsumed⟩ := accounts_optionalIndex.account parentRead
    obtain ⟨-, shortConsumed⟩ := accounts_word32.account shortRead
    obtain ⟨-, kindConsumed⟩ := SegmentKind.accounts.account kindRead
    have consumed := parentConsumed.trans (shortConsumed.trans kindConsumed)
    refine ⟨trivial, ?_⟩
    simpa [QualifiedName.write, QualifiedName.charges, Nat.add_assoc] using consumed

theorem NameTable.accounts :
    Accounts NameTable.read NameTable.write NameTable.charges fun _ => True where
  account := by
    intro feed after table read
    obtain ⟨strings, listed, stringsRead, read⟩ := bind_eq_ok read
    obtain ⟨qualified, named, qualifiedRead, read⟩ := bind_eq_ok read
    cases read
    obtain ⟨-, stringsConsumed⟩ := (Accounts.text.list stringSize).account stringsRead
    obtain ⟨-, qualifiedConsumed⟩ :=
      (QualifiedName.accounts.list qualifiedNameSize).account qualifiedRead
    refine ⟨trivial, ?_⟩
    simpa [NameTable.write, NameTable.charges] using stringsConsumed.trans qualifiedConsumed

/-! ## Descriptions -/

theorem Kind.accounts :
    Accounts Kind.read (fun kind => writeNat kind.tag) (fun _ => [Charge.claim 4])
      fun _ => True where
  account := by
    intro feed after kind read
    obtain ⟨tag, tagged, tagRead, read⟩ := bind_eq_ok read
    obtain ⟨known, consumed⟩ := (Accounts.tag taggedKind).account tagRead
    match tag, known with
    | 0, _ | 1, _ | 2, _ | 3, _ | 4, _ | 5, _ | 6, _ =>
        cases read
        exact ⟨trivial, consumed⟩

theorem Description.accounts :
    Accounts Description.read Description.write Description.charges Description.Shallow where
  account := by
    intro feed after description read
    obtain ⟨name, named, nameRead, read⟩ := bind_eq_ok read
    obtain ⟨kind, marked, kindRead, read⟩ := bind_eq_ok read
    obtain ⟨flags, flagged, flagsRead, read⟩ := bind_eq_ok read
    obtain ⟨constructors, listed, constructorsRead, read⟩ := bind_eq_ok read
    obtain ⟨names, resolved, namesRead, read⟩ := bind_eq_ok read
    cases read
    obtain ⟨-, nameConsumed⟩ := accounts_word32.account nameRead
    obtain ⟨-, kindConsumed⟩ := Kind.accounts.account kindRead
    obtain ⟨-, flagsConsumed⟩ := accounts_word32.account flagsRead
    obtain ⟨shallow, constructorsConsumed⟩ :=
      (Constructor.accounts.list constructorSize).account constructorsRead
    obtain ⟨-, namesConsumed⟩ := NameTable.accounts.account namesRead
    have consumed := nameConsumed.trans <| kindConsumed.trans <| flagsConsumed.trans <|
      constructorsConsumed.trans namesConsumed
    refine ⟨shallow, ?_⟩
    simpa [Description.write, Description.charges, Nat.add_assoc] using consumed

theorem Version.accounts :
    Accounts Version.read Version.write
      (fun _ => [Charge.claim 2, Charge.claim 2, Charge.claim 2]) fun _ => True where
  account := by
    intro feed after version read
    obtain ⟨major, first, majorRead, read⟩ := bind_eq_ok read
    obtain ⟨minor, second, minorRead, read⟩ := bind_eq_ok read
    obtain ⟨patch, third, patchRead, read⟩ := bind_eq_ok read
    cases read
    obtain ⟨-, majorConsumed⟩ := accounts_word16.account majorRead
    obtain ⟨-, minorConsumed⟩ := accounts_word16.account minorRead
    obtain ⟨-, patchConsumed⟩ := accounts_word16.account patchRead
    have consumed := majorConsumed.trans (minorConsumed.trans patchConsumed)
    refine ⟨trivial, ?_⟩
    simpa [Version.write, Nat.add_assoc] using consumed

/-- An envelope that is read has a mark of the right length. -/
theorem Envelope.accounts :
    Accounts Envelope.read Envelope.write Envelope.charges
      (·.magic.length = Envelope.magicBytes.length) where
  account := by
    intro feed after envelope read
    obtain ⟨_, claimed, claimRead, read⟩ := bind_eq_ok read
    obtain ⟨magic, marked, magicRead, read⟩ := bind_eq_ok read
    obtain ⟨version, versioned, versionRead, read⟩ := bind_eq_ok read
    obtain ⟨payload, filled, payloadRead, read⟩ := bind_eq_ok read
    cases read
    obtain ⟨length, magicConsumed⟩ := Reader.take_eq_ok magicRead
    obtain ⟨-, versionConsumed⟩ := Version.accounts.account versionRead
    obtain ⟨-, payloadConsumed⟩ := Accounts.bytes.account payloadRead
    have consumed := (Reader.claim_eq_ok claimRead).trans <| magicConsumed.trans <|
      versionConsumed.trans payloadConsumed
    rw [← length] at consumed
    refine ⟨length, ?_⟩
    simpa [Envelope.write, Envelope.charges, Nat.add_assoc, length, magicBytes] using consumed

/-! ## Stored descriptions -/

/-- A whole input that is read accounts for all of its bytes. -/
theorem readExactly_eq_ok {α : Type} {reader : Reader α} {write : α → List UInt8}
    {charges : α → List Charge} {holds : α → Prop} (accounts : Accounts reader write charges holds)
    {bytes : List UInt8} {value : α} (read : readExactly reader bytes = .ok value) :
    holds value ∧ (write value).length ≤ bytes.length ∧
      Charge.peak 0 (charges value) ≤ claimLimit := by
  cases run : reader ⟨bytes, 0⟩ with
  | error fault =>
      rw [readExactly_of_error run] at read
      cases read
  | ok result =>
      obtain ⟨found, rest, claimed⟩ := result
      cases rest with
      | cons first rest =>
          rw [readExactly_of_rest run] at read
          cases read
      | nil =>
          have same : found = value := by
            simpa [readExactly, Reader.run, StateT.run, run, Except.map] using read
          obtain ⟨held, consumed⟩ := accounts.account run
          obtain ⟨used, split, enough⟩ := consumed.used
          rw [same] at held enough consumed
          have whole : bytes = used := by simpa using split
          rw [whole]
          exact ⟨held, enough, consumed.within (Nat.zero_le _)⟩

/-- Metadata that is read is an envelope of a readable version around a description. -/
theorem Description.decode_eq_ok {bytes : List UInt8} {description : Description}
    (decoded : Description.decode bytes = .ok description) :
    ∃ envelope, readExactly Envelope.read bytes = .ok envelope ∧
      readExactly Description.read envelope.payload = .ok description := by
  cases opened : readExactly Envelope.read bytes with
  | error fault =>
      simp only [Description.decode, opened] at decoded
      cases decoded
  | ok envelope =>
      simp only [Description.decode, opened, bind, Except.bind] at decoded
      split at decoded
      next foreign => cases decoded
      next marked =>
        split at decoded
        next readable => exact ⟨envelope, rfl, decoded⟩
        next incompatible => cases decoded

/-- An envelope of the current version takes the mark, three bytes for the version, and
the payload with its length. -/
theorem Description.encode_length (description : Description) :
    description.encode.length =
      11 + (writeNat description.write.length).length + description.write.length := by
  have version : Version.current.write.length = 3 := by decide
  have mark : Envelope.magicBytes.length = 8 := rfl
  simp only [Description.encode, Description.encodeAt, Envelope.write, writeBytes,
    List.length_append, version, mark]
  omega

theorem Version.write_length (version : Version) : 3 ≤ version.write.length := by
  have major := writeNat_length_pos version.major.toNat
  have minor := writeNat_length_pos version.minor.toNat
  have patch := writeNat_length_pos version.patch.toNat
  simp only [Version.write, List.length_append]
  omega

/-- Whatever metadata is read, its types nest within the levels that are followed, and
it can be stored again in no more bytes and read back. -/
theorem Description.decode_encode_of_decode {bytes : List UInt8} {description : Description}
    (decoded : Description.decode bytes = .ok description) :
    description.Shallow ∧ Description.decode description.encode = .ok description ∧
      description.encode.length ≤ bytes.length := by
  obtain ⟨envelope, opened, read⟩ := Description.decode_eq_ok decoded
  obtain ⟨marked, enveloped, outer⟩ := readExactly_eq_ok Envelope.accounts opened
  obtain ⟨shallow, filled, inner⟩ := readExactly_eq_ok Description.accounts read
  rw [Envelope.peak_charges] at outer
  refine ⟨shallow, ?_, ?_⟩
  · apply Description.decode_of_recoverable
    exact ⟨rfl, Nat.le_refl 2, shallow, by omega, inner⟩
  · have shorter := writeNat_length_mono filled
    have version := envelope.version.write_length
    have mark : Envelope.magicBytes.length = 8 := rfl
    simp only [Envelope.write, writeBytes, List.length_append] at enveloped
    rw [Description.encode_length]
    omega

/-- Metadata of an older version whose integers are spelled at length, and whose one
qualified name is inside itself and has no text. -/
theorem Description.decode_encode_of_decode_lengthy :
    let bytes : List UInt8 :=
      [0, 80, 82, 79, 68, 77, 68, 0, 1, 1, 251, 7, 0, 251, 14, 0,
        252, 5, 0, 0, 0, 0, 1, 0, 0, 1, 1, 0, 9, 1]
    let description : Description :=
      ⟨5, .struct, .product, [], ⟨[], [⟨some 0, 9, .type⟩]⟩⟩
    Description.decode bytes = .ok description ∧
      description.Shallow ∧ Description.decode description.encode = .ok description ∧
      description.encode.length ≤ bytes.length := by
  intro bytes description
  have decoded : Description.decode bytes = .ok description := by decide +kernel
  exact ⟨decoded, Description.decode_encode_of_decode decoded⟩

end RecordDerive.Metadata
