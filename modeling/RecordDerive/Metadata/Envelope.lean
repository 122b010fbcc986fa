import RecordDerive.Metadata.Format

/-!
# Envelopes

Encoded metadata is an envelope: eight bytes that mark it, the version it was
written in, and the description as a byte string of its own.  The envelope never
changes, so the mark and the version are checked before a byte of the
description is looked at.  Both layers must be used up entirely, and each is
read under its own limit.
-/

namespace RecordDerive.Metadata

open Wire

/-- The outer layer of encoded metadata. -/
structure Envelope where
  magic : List UInt8
  version : Version
  payload : List UInt8
  deriving Repr, DecidableEq

namespace Envelope

/-- The bytes that mark metadata. -/
def magicBytes : List UInt8 := [0, 80, 82, 79, 68, 77, 68, 0]

/-- The bytes of an envelope. -/
def write (envelope : Envelope) : List UInt8 :=
  envelope.magic ++ envelope.version.write ++ writeBytes envelope.payload

/-- An envelope, with whatever marks it. -/
def read : Reader Envelope := do
  Reader.claim magicBytes.length
  let magic ← Reader.take magicBytes.length
  let version ← Version.read
  let payload ← Reader.bytes
  return ⟨magic, version, payload⟩

end Envelope

/-- The value that all of the bytes make up. -/
def readExactly {α : Type} (reader : Reader α) (bytes : List UInt8) : Except Fault α :=
  match reader.run bytes with
  | .error fault => .error (.unreadable fault)
  | .ok (value, []) => .ok value
  | .ok (_, extra) => .error (.trailingBytes extra.length)

/-- A description in an envelope of the given version. -/
def Description.encodeAt (version : Version) (description : Description) : List UInt8 :=
  Envelope.write ⟨Envelope.magicBytes, version, description.write⟩

/-- A description in an envelope of the current version. -/
def Description.encode (description : Description) : List UInt8 :=
  description.encodeAt .current

/-- The description in an envelope, if the envelope is metadata of a readable
version. -/
def Description.decode (bytes : List UInt8) : Except Fault Description := do
  let envelope ← readExactly Envelope.read bytes
  if envelope.magic ≠ Envelope.magicBytes then
    throw .badMagic
  else if envelope.version.isReadableBy .current then
    readExactly Description.read envelope.payload
  else
    throw (.incompatibleVersion envelope.version .current)

end RecordDerive.Metadata
