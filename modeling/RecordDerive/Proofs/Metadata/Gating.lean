import RecordDerive.Proofs.Metadata.RoundTrip

/-!
# What an envelope keeps shut

The payload of an envelope is bytes to whoever opens it.  Whether there are too many of them
is seen first, then the mark, then the version; what they are is looked at only when all
three are in order.  So a payload in whatever form later versions give it has no part in how
it is refused, and is never taken for a description.
-/

namespace RecordDerive.Metadata

open Wire

section Whole

variable {α : Type} {reader : Reader α} {bytes : List UInt8} {value : α}

/-- A whole input is read if nothing of it is left. -/
theorem readExactly_eq_ok_iff :
    readExactly reader bytes = .ok value ↔ reader.run bytes = .ok (value, []) := by
  rw [readExactly]
  split
  next fault stopped => simp [stopped]
  next found read => simp [read]
  next found rest left read =>
    have more : rest ≠ [] := left
    simp [read, more]

end Whole

/-- What decoding makes of an envelope that keeps the limit. -/
structure Envelope.Gates (magic : List UInt8) (version : Version) (payload : List UInt8) :
    Prop where
  foreign : magic ≠ magicBytes →
    Description.decode (write ⟨magic, version, payload⟩) = .error .badMagic
  incompatible : magic = magicBytes → version.isReadableBy .current = false →
    Description.decode (write ⟨magic, version, payload⟩) =
      .error (.incompatibleVersion version .current)
  /-- The payload is not looked at where the envelope is refused. -/
  unseen : ¬(magic = magicBytes ∧ version.isReadableBy .current = true) → ∀ other : List UInt8,
    other.length + 22 ≤ claimLimit →
      Description.decode (write ⟨magic, version, other⟩) =
        Description.decode (write ⟨magic, version, payload⟩)
  opened : magic = magicBytes → version.isReadableBy .current = true →
    Description.decode (write ⟨magic, version, payload⟩) = readExactly Description.read payload
  /-- There is a description in the envelope if it takes up all of the payload. -/
  whole : magic = magicBytes → version.isReadableBy .current = true → ∀ description,
    Description.decode (write ⟨magic, version, payload⟩) = .ok description ↔
      Description.read.run payload = .ok (description, [])

namespace Description

variable {magic : List UInt8} {version : Version} {payload : List UInt8}

theorem decode_write_of_within (marked : magic.length = 8)
    (within : payload.length + 22 ≤ claimLimit) :
    decode (Envelope.write ⟨magic, version, payload⟩) =
      if magic ≠ Envelope.magicBytes then .error .badMagic
      else if version.isReadableBy .current then readExactly Description.read payload
      else .error (.incompatibleVersion version .current) := by
  rw [Nat.add_comm] at within
  rw [decode_write ⟨magic, version, payload⟩ marked (lt_bound_of_le_claimLimit within),
    if_neg (Nat.not_lt.mpr within)]

/-- What is in an envelope matters only where the mark is right and the version can be read. -/
theorem decode_write_unseen (marked : magic.length = 8)
    (shut : ¬(magic = Envelope.magicBytes ∧ version.isReadableBy .current = true))
    (within : payload.length + 22 ≤ claimLimit) {other : List UInt8}
    (within' : other.length + 22 ≤ claimLimit) :
    decode (Envelope.write ⟨magic, version, other⟩) =
      decode (Envelope.write ⟨magic, version, payload⟩) := by
  rw [decode_write_of_within marked within, decode_write_of_within marked within']
  by_cases foreign : magic ≠ Envelope.magicBytes
  · rw [if_pos foreign, if_pos foreign]
  · have unreadable : ¬version.isReadableBy .current = true := fun readable =>
      shut ⟨Decidable.of_not_not foreign, readable⟩
    rw [if_neg foreign, if_neg foreign, if_neg unreadable, if_neg unreadable]

/-- An envelope that keeps the limit is refused for its mark or its version, whatever is in it,
and otherwise its payload is read; one above the limit is refused for that alone.  A payload in
memory always has a length that can be spelled. -/
theorem decode_gates (magic : List UInt8) (version : Version) (payload : List UInt8)
    (marked : magic.length = 8) :
    (payload.length + 22 ≤ claimLimit → Envelope.Gates magic version payload) ∧
    (claimLimit < payload.length + 22 → payload.length < Word.word64.bound →
      decode (Envelope.write ⟨magic, version, payload⟩) = .error (.unreadable .limitExceeded)) := by
  constructor
  · intro within
    have decided := @decode_write_of_within magic version payload marked within
    have opened : magic = Envelope.magicBytes → version.isReadableBy .current = true →
        decode (Envelope.write ⟨magic, version, payload⟩) =
          readExactly Description.read payload := by
      intro right readable
      rw [decided, if_neg (not_not_intro right), if_pos readable]
    exact {
      foreign := by
        intro foreign
        rw [decided, if_pos foreign]
      incompatible := by
        intro right unreadable
        rw [decided, if_neg (not_not_intro right), if_neg (Bool.eq_false_iff.mp unreadable)]
      unseen := fun shut _ => decode_write_unseen marked shut within
      opened := opened
      whole := by
        intro right readable description
        rw [opened right readable, readExactly_eq_ok_iff] }
  · intro above short
    rw [Nat.add_comm] at above
    rw [decode_write ⟨magic, version, payload⟩ marked short, if_pos above]

/-- An envelope of a later version, around bytes that are no description. -/
theorem decode_gates_later :
    let magic : List UInt8 := [0, 80, 82, 79, 68, 77, 68, 0]
    let payload : List UInt8 := [255, 0, 1]
    magic.length = 8 ∧ payload.length + 22 ≤ claimLimit ∧ Envelope.Gates magic ⟨1, 3, 0⟩ payload ∧
      decode (Envelope.write ⟨magic, ⟨1, 3, 0⟩, payload⟩) =
        .error (.incompatibleVersion ⟨1, 3, 0⟩ .current) := by
  intro magic payload
  have within : payload.length + 22 ≤ claimLimit := by decide
  have gates := (decode_gates magic ⟨1, 3, 0⟩ payload rfl).1 within
  exact ⟨rfl, within, gates, gates.incompatible rfl rfl⟩

end Description

end RecordDerive.Metadata
