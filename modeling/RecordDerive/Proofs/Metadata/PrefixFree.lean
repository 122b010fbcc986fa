import RecordDerive.Proofs.Metadata.Reencoding
import RecordDerive.Proofs.Wire.Extent

/-!
# Stored metadata has one end

Metadata that is read ends where its envelope ends.  With bytes behind it, it is refused
for just those bytes; cut off anywhere, it is too short.  So of two inputs that are read,
none is the beginning of the other.
-/

namespace RecordDerive.Metadata

open Wire

/-! ## Whole inputs -/

section Whole

variable {α : Type} {reader : Reader α} {bytes : List UInt8} {value : α}

/-- A whole input that is read is one stretch. -/
theorem spans_of_readExactly (delimits : Delimits reader)
    (read : readExactly reader bytes = .ok value) :
    ∃ settled found, Spans reader bytes 0 settled found := by
  cases run : reader ⟨bytes, 0⟩ with
  | error fault =>
      rw [readExactly_of_error run] at read
      cases read
  | ok result =>
      obtain ⟨found, rest, settled⟩ := result
      obtain ⟨used, ahead, spans⟩ := delimits.delimit run
      cases rest with
      | nil =>
          obtain rfl : bytes = used := by simpa using ahead
          exact ⟨settled, found, spans⟩
      | cons first rest =>
          rw [readExactly_of_rest run] at read
          cases read

variable {settled : Nat}

theorem readExactly_of_padded (spans : Spans reader bytes 0 settled value) {extra : List UInt8}
    (more : extra ≠ []) :
    readExactly reader (bytes ++ extra) = .error (.trailingBytes extra.length) := by
  obtain ⟨first, rest, rfl⟩ := List.exists_cons_of_ne_nil more
  exact readExactly_of_rest (spans.whole (first :: rest))

theorem readExactly_of_cut (spans : Spans reader bytes 0 settled value) {kept : List UInt8}
    (begins : kept <+: bytes) (differs : kept ≠ bytes) :
    ∃ missing, 0 < missing ∧ kept.length + missing ≤ bytes.length ∧
      readExactly reader kept = .error (.unreadable (.endOfInput missing)) := by
  obtain ⟨missing, some, few, stopped⟩ := spans.cut kept begins differs
  exact ⟨missing, some, few, readExactly_of_error stopped⟩

end Whole

/-! ## Envelopes -/

theorem delimits_word16 : Delimits readWord16 :=
  (Delimits.nat .word16).bind fun number => .pure (UInt16.ofNat number)

theorem Version.delimits : Delimits Version.read :=
  delimits_word16.bind fun _ => delimits_word16.bind fun _ => delimits_word16.bind fun _ => .pure _

theorem Envelope.delimits : Delimits Envelope.read :=
  (Delimits.claim _).bind fun _ => (Delimits.take _).bind fun _ =>
    Version.delimits.bind fun _ => Delimits.bytes.bind fun _ => .pure _

/-! ## Stored descriptions -/

/-- What stops the reading of an envelope stops the reading of the description in it. -/
theorem Description.decode_of_unopened {bytes : List UInt8} {fault : Fault}
    (unopened : readExactly Envelope.read bytes = .error fault) :
    Description.decode bytes = .error fault := by
  rw [Description.decode, unopened]
  rfl

/-- Metadata that is read is refused with anything behind it and with anything cut off its
end: in the one case for as many bytes as were added, in the other because bytes are
missing, and no more than were cut off.  No other input that is read begins with it. -/
theorem Description.decode_prefixFree {bytes : List UInt8} {description : Description}
    (decoded : Description.decode bytes = .ok description) :
    (∀ extra, extra ≠ [] →
      Description.decode (bytes ++ extra) = .error (.trailingBytes extra.length)) ∧
    (∀ kept, kept <+: bytes → kept ≠ bytes → ∃ missing, 0 < missing ∧
      kept.length + missing ≤ bytes.length ∧
      Description.decode kept = .error (.unreadable (.endOfInput missing))) ∧
    ∀ other found, Description.decode other = .ok found → bytes <+: other → other = bytes := by
  obtain ⟨envelope, opened, -⟩ := Description.decode_eq_ok decoded
  obtain ⟨settled, found, spans⟩ := spans_of_readExactly Envelope.delimits opened
  have padded : ∀ extra, extra ≠ [] →
      Description.decode (bytes ++ extra) = .error (.trailingBytes extra.length) := by
    intro extra more
    exact Description.decode_of_unopened (readExactly_of_padded spans more)
  refine ⟨padded, ?_, ?_⟩
  · intro kept begins differs
    obtain ⟨missing, some, few, unopened⟩ := readExactly_of_cut spans begins differs
    exact ⟨missing, some, few, Description.decode_of_unopened unopened⟩
  · rintro other found decoded' ⟨extra, rfl⟩
    cases extra with
    | nil => exact List.append_nil bytes
    | cons first rest =>
        rw [padded _ (List.cons_ne_nil first rest)] at decoded'
        cases decoded'

/-- Metadata with an integer spelled at length, cut off inside that integer. -/
theorem Description.decode_prefixFree_lengthy :
    let bytes : List UInt8 :=
      [0, 80, 82, 79, 68, 77, 68, 0, 1, 1, 251, 7, 0, 251, 14, 0,
        252, 5, 0, 0, 0, 0, 1, 0, 0, 1, 1, 0, 9, 1]
    let description : Description :=
      ⟨5, .struct, .product, [], ⟨[], [⟨some 0, 9, .type⟩]⟩⟩
    Description.decode bytes = .ok description ∧
      Description.decode (bytes ++ [0, 0]) = .error (.trailingBytes 2) ∧
      (∃ missing, 0 < missing ∧ 12 + missing ≤ 30 ∧
        Description.decode (bytes.take 12) = .error (.unreadable (.endOfInput missing))) ∧
      ∀ other found, Description.decode other = .ok found → bytes <+: other → other = bytes := by
  intro bytes description
  have decoded : Description.decode bytes = .ok description := by decide +kernel
  obtain ⟨padded, cut, alone⟩ := Description.decode_prefixFree decoded
  exact ⟨decoded, padded [0, 0] (by decide), cut _ (List.take_prefix 12 bytes) (by decide), alone⟩

end RecordDerive.Metadata
