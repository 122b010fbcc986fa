import RecordDerive.Metadata.Envelope
import RecordDerive.Proofs.Metadata.Readback

/-!
# Descriptions survive being stored

A stored description is an envelope around its bytes, and both layers are read
under limits of their own.  What was stored is given back exactly if the version
can be read, the types nest within the levels that are followed, and neither
layer claims too much.  Otherwise reading fails: it never gives another
description.
-/

namespace RecordDerive.Metadata

open Wire

/-! ## Whole inputs -/

section Whole

variable {α : Type} {reader : Reader α} {bytes : List UInt8} {charges : List Charge}
  {shallow : Prop} {value : α}

theorem readExactly_of_error {fault : Wire.Fault} (stopped : reader ⟨bytes, 0⟩ = .error fault) :
    readExactly reader bytes = .error (.unreadable fault) := by
  simp [readExactly, Reader.run, StateT.run, stopped, Except.map]

theorem readExactly_of_rest {first : UInt8} {rest : List UInt8} {claimed : Nat}
    (read : reader ⟨bytes, 0⟩ = .ok (value, ⟨first :: rest, claimed⟩)) :
    readExactly reader bytes = .error (.trailingBytes (rest.length + 1)) := by
  simp [readExactly, Reader.run, StateT.run, read, Except.map]

/-- The bytes of one value, and nothing after them, are used up. -/
theorem readExactly_of_reads (reads : Reads reader bytes charges shallow value)
    (nested : shallow) (within : Charge.peak 0 charges ≤ claimLimit) :
    readExactly reader bytes = .ok value := by
  have read := reads.accepts [] 0 nested within
  rw [List.append_nil] at read
  simp [readExactly, Reader.run, StateT.run, read, Except.map]

/-- A reader that stops at the bytes of a value says why. -/
theorem readExactly_of_exceeded (reads : Reads reader bytes charges shallow value)
    (exceeded : ¬(shallow ∧ Charge.peak 0 charges ≤ claimLimit)) :
    claimLimit < Charge.peak 0 charges ∧
        readExactly reader bytes = .error (.unreadable .limitExceeded) ∨
      ¬shallow ∧ readExactly reader bytes = .error (.unreadable .nestedTooDeeply) := by
  have stopped := reads.refuses [] 0 (Nat.zero_le _) exceeded
  rw [List.append_nil] at stopped
  exact stopped.imp (And.imp_right readExactly_of_error) (And.imp_right readExactly_of_error)

/-- Bytes after those of a value are refused. -/
theorem readExactly_append (reads : Reads reader bytes charges shallow value) {extra : List UInt8}
    (more : extra ≠ []) : ∃ fault, readExactly reader (bytes ++ extra) = .error fault := by
  obtain ⟨first, rest, rfl⟩ := List.exists_cons_of_ne_nil more
  by_cases accepted : shallow ∧ Charge.peak 0 charges ≤ claimLimit
  · exact ⟨_, readExactly_of_rest (reads.accepts _ _ accepted.1 accepted.2)⟩
  · rcases reads.refuses (first :: rest) 0 (Nat.zero_le _) accepted
      with ⟨_, stopped⟩ | ⟨_, stopped⟩
    · exact ⟨_, readExactly_of_error stopped⟩
    · exact ⟨_, readExactly_of_error stopped⟩

end Whole

/-! ## Envelopes -/

namespace Envelope

/-- The movements of an envelope. -/
def charges (envelope : Envelope) : List Charge :=
  .claim 8 :: .claim 2 :: .claim 2 :: .claim 2 :: Charge.ofBytes envelope.payload

/-- An envelope claims its payload and twenty-two bytes more, and gives nothing
back. -/
theorem peak_charges (envelope : Envelope) :
    Charge.peak 0 envelope.charges = 22 + envelope.payload.length := by
  simp only [charges, Charge.ofBytes, Charge.peak, Charge.apply]
  omega

/-- The bytes of an envelope whose payload is said to be as long as `content`,
up to the end of `content`. -/
theorem reads_content {magic content : List UInt8} (version : Version) (number : Nat)
    (marked : magic.length = 8) (counted : number % Word.word64.bound = content.length) :
    Reads Envelope.read (magic ++ version.write ++ (writeNat number ++ content))
      (charges ⟨magic, version, content⟩) True ⟨magic, version, content⟩ := by
  have length := Reads.natWrapped number
  rw [counted] at length
  have mark : Reads (Reader.take magicBytes.length) magic [] True magic := by
    have taken := Reads.take magic
    rwa [marked] at taken
  have payload : Reads Reader.bytes (writeNat number ++ ([] ++ content))
      ([Charge.claim 8] ++ ([Charge.claim content.length] ++ [])) (True ∧ True ∧ True) content :=
    .bind length (.bind (.claim _) (.take content))
  have reads : Reads Envelope.read
      ([] ++ (magic ++ (version.write ++ ((writeNat number ++ ([] ++ content)) ++ []))))
      ([Charge.claim 8] ++ ([] ++ ([Charge.claim 2, Charge.claim 2, Charge.claim 2] ++
        (([Charge.claim 8] ++ ([Charge.claim content.length] ++ [])) ++ []))))
      (True ∧ True ∧ True ∧ (True ∧ True ∧ True) ∧ True) ⟨magic, version, content⟩ :=
    .bind (.claim 8) <| .bind mark <| .bind version.reads <| .bind payload (.pure _)
  simpa [charges, Charge.ofBytes] using reads

/-- An envelope is read back, whatever marks it. -/
theorem reads (envelope : Envelope) (marked : envelope.magic.length = 8)
    (short : envelope.payload.length < Word.word64.bound) :
    Reads Envelope.read envelope.write envelope.charges True envelope :=
  reads_content envelope.version envelope.payload.length marked (Nat.mod_eq_of_lt short)

/-- A payload whose length has no spelling leaves bytes over. -/
theorem readExactly_of_long (envelope : Envelope) (marked : envelope.magic.length = 8)
    (long : Word.word64.bound ≤ envelope.payload.length) :
    ∃ fault, readExactly Envelope.read envelope.write = .error fault := by
  obtain ⟨kept, counted⟩ : ∃ kept, envelope.payload.length % Word.word64.bound = kept := ⟨_, rfl⟩
  have shorter : kept < envelope.payload.length := by
    rw [← counted]
    exact Nat.lt_of_lt_of_le (Nat.mod_lt _ (by decide)) long
  have taken : envelope.payload.length % Word.word64.bound =
      (envelope.payload.take kept).length := by
    rw [counted, List.length_take]
    omega
  have more : envelope.payload.drop kept ≠ [] := by
    rw [Ne, List.drop_eq_nil_iff]
    omega
  have stopped := readExactly_append
    (reads_content envelope.version envelope.payload.length marked taken) more
  rw [List.append_assoc, List.append_assoc (writeNat _), List.take_append_drop] at stopped
  exact stopped

end Envelope

/-! ## Stored descriptions -/

theorem Version.isReadableBy_current {version : Version} :
    version.isReadableBy .current = true ↔ version.major = 1 ∧ version.minor ≤ 2 :=
  Bool.and_eq_true_iff.trans (and_congr beq_iff_eq decide_eq_true_iff)

/-- The size of an envelope is looked at before its mark, the mark before the version, and
the version before the payload. -/
theorem Description.decode_write (envelope : Envelope) (marked : envelope.magic.length = 8)
    (short : envelope.payload.length < Word.word64.bound) :
    Description.decode envelope.write =
      if claimLimit < 22 + envelope.payload.length then .error (.unreadable .limitExceeded)
      else if envelope.magic ≠ Envelope.magicBytes then .error .badMagic
      else if envelope.version.isReadableBy .current then
        readExactly Description.read envelope.payload
      else .error (.incompatibleVersion envelope.version .current) := by
  have reads := envelope.reads marked short
  have highest := envelope.peak_charges
  unfold Description.decode
  split
  next above =>
    rcases readExactly_of_exceeded reads (by omega) with ⟨_, stopped⟩ | ⟨deep, _⟩
    · rw [stopped]
      rfl
    · exact absurd trivial deep
  next within =>
    rw [readExactly_of_reads reads trivial (by omega)]
    rfl

/-- The envelope is looked at before its version, and the version before the
description. -/
theorem Description.decode_encodeAt_eq (version : Version) {description : Description}
    (short : description.write.length < Word.word64.bound) :
    Description.decode (description.encodeAt version) =
      if claimLimit < 22 + description.write.length then .error (.unreadable .limitExceeded)
      else if version.isReadableBy .current then
        readExactly Description.read description.write
      else .error (.incompatibleVersion version .current) := by
  have marked : ¬Envelope.magicBytes ≠ Envelope.magicBytes := not_not_intro rfl
  rw [Description.encodeAt, Description.decode_write _ rfl short, if_neg marked]

/-- The versions and descriptions for which a stored description can be read. -/
structure Description.Recoverable (version : Version) (description : Description) : Prop where
  major : version.major = 1
  minor : version.minor ≤ 2
  shallow : description.Shallow
  /-- What the envelope claims is within the limit. -/
  envelope : 22 + description.write.length ≤ claimLimit
  /-- What the description claims is within the limit at every moment. -/
  payload : description.peak ≤ claimLimit

/-- What the limit admits has a length that can be spelled. -/
theorem lt_bound_of_le_claimLimit {length : Nat} (within : 22 + length ≤ claimLimit) :
    length < Word.word64.bound := by
  simp only [claimLimit, Word.bound] at within ⊢
  omega

theorem Description.decode_of_recoverable {version : Version} {description : Description}
    (recoverable : description.Recoverable version) :
    Description.decode (description.encodeAt version) = .ok description := by
  have short := lt_bound_of_le_claimLimit recoverable.envelope
  have readable := Version.isReadableBy_current.mpr ⟨recoverable.major, recoverable.minor⟩
  rw [Description.decode_encodeAt_eq version short,
    if_neg (Nat.not_lt.mpr recoverable.envelope), if_pos readable]
  exact readExactly_of_reads (Description.reads short) recoverable.shallow recoverable.payload

theorem Description.decode_of_not_recoverable {version : Version} {description : Description}
    (lost : ¬description.Recoverable version) :
    ∃ fault, Description.decode (description.encodeAt version) = .error fault ∧
      (description.write.length < Word.word64.bound →
        fault = .unreadable .limitExceeded ∨ fault = .incompatibleVersion version .current ∨
          fault = .unreadable .nestedTooDeeply) := by
  by_cases short : description.write.length < Word.word64.bound
  · rw [Description.decode_encodeAt_eq version short]
    split
    next above => exact ⟨_, rfl, fun _ => .inl rfl⟩
    split
    next within readable =>
      have current := Version.isReadableBy_current.mp readable
      have exceeded : ¬(description.Shallow ∧ description.peak ≤ claimLimit) := fun kept =>
        lost ⟨current.1, current.2, kept.1, Nat.not_lt.mp within, kept.2⟩
      rcases readExactly_of_exceeded (Description.reads short) exceeded
        with ⟨_, stopped⟩ | ⟨_, stopped⟩
      · exact ⟨_, stopped, fun _ => .inl rfl⟩
      · exact ⟨_, stopped, fun _ => .inr (.inr rfl)⟩
    next => exact ⟨_, rfl, fun _ => .inr (.inl rfl)⟩
  · obtain ⟨fault, stopped⟩ := Envelope.readExactly_of_long
      ⟨Envelope.magicBytes, version, description.write⟩ rfl (Nat.not_lt.mp short)
    refine ⟨fault, ?_, fun counted => absurd counted short⟩
    unfold Description.decode Description.encodeAt
    rw [stopped]
    rfl

/-- A stored description is given back exactly if it is recoverable.  Otherwise
reading it fails, at the limit, at the version or at the nesting; for a payload whose
length does not fit the eight bytes it is spelled in, as no list in memory has one,
only that it fails is said. -/
theorem Description.decode_encodeAt (version : Version) (description : Description) :
    (Description.decode (description.encodeAt version) = .ok description ↔
      description.Recoverable version) ∧
    (¬description.Recoverable version →
      ∃ fault, Description.decode (description.encodeAt version) = .error fault ∧
        (description.write.length < Word.word64.bound →
          fault = .unreadable .limitExceeded ∨ fault = .incompatibleVersion version .current ∨
            fault = .unreadable .nestedTooDeeply)) := by
  refine ⟨⟨fun decoded => ?_, Description.decode_of_recoverable⟩,
    Description.decode_of_not_recoverable⟩
  rcases Classical.em (description.Recoverable version) with recoverable | lost
  · exact recoverable
  · obtain ⟨fault, failed, _⟩ := Description.decode_of_not_recoverable lost
    rw [failed] at decoded
    cases decoded

end RecordDerive.Metadata
