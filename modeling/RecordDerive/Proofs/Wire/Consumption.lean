import RecordDerive.Proofs.Wire.Readback

/-!
# What reading uses up

Readers accept more than is ever written, because integers may be spelled longer than
they need to be.  But whatever a reader accepts, it uses up at least the bytes that the
value would be written with, and it claims what the value says and not what its
spelling does.  `Accounts` says so of a reader.
-/

namespace RecordDerive.Wire

/-! ## Lengths of numbers -/

theorem writeNat_length (number : Nat) :
    (writeNat number).length =
      if number ≤ 250 then 1
      else if number < 65536 then 3
      else if number < 4294967296 then 5
      else 9 := by
  unfold writeNat
  split
  · rfl
  split
  · rfl
  split <;> rfl

/-- Larger numbers are not written shorter. -/
theorem writeNat_length_mono {number number' : Nat} (less : number ≤ number') :
    (writeNat number).length ≤ (writeNat number').length := by
  rw [writeNat_length, writeNat_length]
  repeat' split
  all_goals omega

/-! ## Stretches of reading -/

/-- A stretch of reading uses up at least so many bytes and makes the given movements,
which stay under the limit. -/
structure Consumed (before after : Feed) (least : Nat) (charges : List Charge) : Prop where
  used : ∃ bytes, before.ahead = bytes ++ after.ahead ∧ least ≤ bytes.length
  settled : after.claimed = Charge.settle before.claimed charges
  within : before.claimed ≤ claimLimit → Charge.peak before.claimed charges ≤ claimLimit

namespace Consumed

theorem refl (feed : Feed) : Consumed feed feed 0 [] where
  used := ⟨[], rfl, Nat.le_refl 0⟩
  settled := rfl
  within := fun below => below

theorem trans {before between after : Feed} {first second : Nat}
    {firstCharges secondCharges : List Charge} (earlier : Consumed before between first firstCharges)
    (later : Consumed between after second secondCharges) :
    Consumed before after (first + second) (firstCharges ++ secondCharges) where
  used := by
    obtain ⟨bytes, split, enough⟩ := earlier.used
    obtain ⟨bytes', split', enough'⟩ := later.used
    refine ⟨bytes ++ bytes', ?_, ?_⟩
    · rw [split, split', List.append_assoc]
    · rw [List.length_append]
      omega
  settled := by rw [later.settled, earlier.settled, Charge.settle_append]
  within := by
    intro below
    have firstWithin := earlier.within below
    have reached := Charge.settle_le_peak before.claimed firstCharges
    have secondWithin := later.within (by rw [earlier.settled]; omega)
    rw [earlier.settled] at secondWithin
    rw [Charge.peak_append]
    omega

theorem mono {before after : Feed} {least least' : Nat} {charges : List Charge}
    (consumed : Consumed before after least charges) (less : least' ≤ least) :
    Consumed before after least' charges := by
  obtain ⟨bytes, split, enough⟩ := consumed.used
  exact ⟨⟨bytes, split, Nat.le_trans less enough⟩, consumed.settled, consumed.within⟩

end Consumed

/-! ## Steps of a reader -/

namespace Reader

variable {α β : Type} {feed after : Feed}

theorem bind_eq_ok {first : Reader α} {next : α → Reader β} {result : β}
    (read : (first >>= next) feed = .ok (result, after)) :
    ∃ value between, first feed = .ok (value, between) ∧
      next value between = .ok (result, after) := by
  change (first feed >>= fun step => next step.1 step.2) = _ at read
  cases step : first feed with
  | error fault =>
      rw [step] at read
      cases read
  | ok step' =>
      rw [step] at read
      exact ⟨step'.1, step'.2, rfl, read⟩

theorem claim_eq_ok {count : Nat} {answer : Unit} (read : claim count feed = .ok (answer, after)) :
    Consumed feed after 0 [Charge.claim count] := by
  rw [claim] at read
  split at read
  next below =>
    cases read
    refine ⟨⟨[], rfl, Nat.le_refl 0⟩, rfl, ?_⟩
    intro within
    simp only [Charge.peak, Charge.apply]
    omega
  next above => cases read

theorem refund_eq_ok {count : Nat} {answer : Unit} (read : refund count feed = .ok (answer, after)) :
    Consumed feed after 0 [Charge.refund count] := by
  cases read
  refine ⟨⟨[], rfl, Nat.le_refl 0⟩, rfl, ?_⟩
  intro within
  simp only [Charge.peak, Charge.apply]
  omega

theorem take_eq_ok {count : Nat} {bytes : List UInt8}
    (read : take count feed = .ok (bytes, after)) :
    bytes.length = count ∧ Consumed feed after count [] := by
  simp only [take] at read
  split at read
  next enough =>
    cases read
    refine ⟨enough, ⟨⟨_, (List.take_append_drop count feed.ahead).symm, ?_⟩, rfl, fun below => below⟩⟩
    exact Nat.le_of_eq enough.symm
  next missing => cases read

theorem byte_eq_ok {found : UInt8} (read : byte feed = .ok (found, after)) :
    Consumed feed after 1 [] := by
  simp only [byte] at read
  split at read
  next none => cases read
  next first rest ahead =>
    cases read
    exact ⟨⟨[found], ahead, Nat.le_refl 1⟩, rfl, fun below => below⟩

end Reader

/-! ## Whole readers -/

/-- Each value that a reader gives is as `holds` says, and the reader used up as many
bytes for it as `write` makes of it, and claimed as `charges` says of it. -/
structure Accounts {α : Type} (reader : Reader α) (write : α → List UInt8)
    (charges : α → List Charge) (holds : α → Prop) : Prop where
  account : ∀ {feed after : Feed} {value : α}, reader feed = .ok (value, after) →
    holds value ∧ Consumed feed after (write value).length (charges value)

namespace Accounts

open Reader (bind_eq_ok claim_eq_ok refund_eq_ok take_eq_ok byte_eq_ok)

variable {α : Type}

/-! ### Integers -/

theorem ofLittleEndian_lt (bytes : List UInt8) :
    Reader.ofLittleEndian bytes < Reads.span bytes.length := by
  induction bytes with
  | nil => exact Nat.one_pos
  | cons first rest ih =>
      have digit := first.toNat_lt
      simp only [Reader.ofLittleEndian] at ih
      simp only [Reader.ofLittleEndian, List.foldr_cons, List.length_cons, Reads.span]
      omega

/-- Of the spellings of a number, the one that is written is the shortest. -/
theorem writeNat_length_le {number : Nat} {spelled : Spelling}
    (small : number < Reads.span spelled.size) (known : 0 < spelled.size) :
    (writeNat number).length ≤ 1 + spelled.size := by
  rw [writeNat_length]
  cases spelled with
  | two =>
      have bound : number < 65536 := small
      simp only [Spelling.size]
      repeat' split
      all_goals omega
  | four =>
      have bound : number < 4294967296 := small
      simp only [Spelling.size]
      repeat' split
      all_goals omega
  | eight =>
      simp only [Spelling.size]
      repeat' split
      all_goals omega
  | sixteen =>
      simp only [Spelling.size]
      repeat' split
      all_goals omega
  | reserved => cases known

/-- What fits so many bytes is a number of the type they may spell. -/
theorem span_le_bound {word : Word} {spelled : Spelling} (known : 0 < spelled.size)
    (fits : spelled.size ≤ word.size) : Reads.span spelled.size ≤ word.bound := by
  cases word <;> cases spelled <;> simp_all [Spelling.size, Word.size, Word.bound, Reads.span]

theorem nat (word : Word) :
    Accounts (Reader.nat word) writeNat (fun _ => [Charge.claim word.size])
      (· < word.bound) where
  account := by
    intro feed after value read
    obtain ⟨_, claimed, claimRead, read⟩ := bind_eq_ok read
    obtain ⟨_, _, getRead, read⟩ := bind_eq_ok read
    cases getRead
    obtain ⟨lead, led, leadRead, read⟩ := bind_eq_ok read
    have start := (claim_eq_ok claimRead).trans (byte_eq_ok leadRead)
    split at read
    next short =>
      cases read
      have least : 250 < word.bound := by cases word <;> decide
      have small : lead.toNat ≤ 250 := UInt8.le_iff_toNat_le.mp short
      refine ⟨Nat.lt_of_le_of_lt small least, start.mono ?_⟩
      have length := writeNat_length lead.toNat
      rw [if_pos small] at length
      exact Nat.le_of_eq length
    next long =>
      dsimp only at read
      split at read
      next fits =>
        obtain ⟨bytes, taken, bytesRead, read⟩ := bind_eq_ok read
        cases read
        obtain ⟨count, whole⟩ := take_eq_ok bytesRead
        have small := ofLittleEndian_lt bytes
        rw [count] at small
        refine ⟨Nat.lt_of_lt_of_le small (span_le_bound fits.1 fits.2), ?_⟩
        apply (start.trans whole).mono
        have shortest := writeNat_length_le small fits.1
        omega
      next misfit => cases read

/-- A number that is put into a value afterwards is accounted for by the value. -/
theorem map {β : Type} {reader : Reader α} {write : α → List UInt8} {charges : α → List Charge}
    {holds : α → Prop} (accounts : Accounts reader write charges holds) {image : α → β}
    {write' : β → List UInt8} {charges' : β → List Charge} {holds' : β → Prop}
    (same : ∀ value, holds value → holds' (image value) ∧ write' (image value) = write value ∧
      charges' (image value) = charges value) :
    Accounts (do return image (← reader)) write' charges' holds' where
  account := by
    intro feed after result read
    obtain ⟨value, between, valueRead, read⟩ := bind_eq_ok read
    cases read
    obtain ⟨held, consumed⟩ := accounts.account valueRead
    obtain ⟨held', written, charged⟩ := same value held
    rw [written, charged]
    exact ⟨held', consumed⟩

theorem tag (type : Tagged) :
    Accounts (Reader.tag type) writeNat (fun _ => [Charge.claim 4]) (· ≤ type.last) where
  account := by
    intro feed after value read
    obtain ⟨found, between, foundRead, read⟩ := bind_eq_ok read
    obtain ⟨-, consumed⟩ := (nat .word32).account foundRead
    split at read
    next known =>
      cases read
      exact ⟨known, consumed⟩
    next unknown => cases read

theorem bool : Accounts Reader.bool writeBool (fun _ => [Charge.claim 1]) fun _ => True where
  account := by
    intro feed after value read
    obtain ⟨_, claimed, claimRead, read⟩ := bind_eq_ok read
    obtain ⟨found, led, foundRead, read⟩ := bind_eq_ok read
    have consumed := (claim_eq_ok claimRead).trans (byte_eq_ok foundRead)
    split at read
    next absent =>
      cases read
      exact ⟨trivial, consumed⟩
    next other =>
      split at read
      next present =>
        cases read
        exact ⟨trivial, consumed⟩
      next unknown => cases read

/-! ### Lists and texts -/

section Items

variable {reader : Reader α} {write : α → List UInt8} {charges : α → List Charge}
  {holds : α → Prop}

theorem items (each : Accounts reader write charges holds) (size : Nat) {count : Nat}
    {feed after : Feed} {values : List α}
    (read : Reader.items size reader count feed = .ok (values, after)) :
    values.length = count ∧ (∀ value ∈ values, holds value) ∧
      Consumed feed after (values.flatMap write).length
        (values.flatMap fun value => Charge.refund size :: charges value) := by
  induction count generalizing feed values with
  | zero =>
      cases read
      exact ⟨rfl, nofun, .refl _⟩
  | succ count ih =>
      obtain ⟨_, refunded, refundRead, read⟩ := bind_eq_ok read
      obtain ⟨first, one, firstRead, read⟩ := bind_eq_ok read
      obtain ⟨rest, others, restRead, read⟩ := bind_eq_ok read
      cases read
      obtain ⟨firstHolds, firstConsumed⟩ := each.account firstRead
      obtain ⟨counted, restHold, restConsumed⟩ := ih restRead
      refine ⟨congrArg (· + 1) counted, ?_, ?_⟩
      · intro value member
        rcases List.mem_cons.mp member with rfl | later
        · exact firstHolds
        · exact restHold value later
      · have consumed := (refund_eq_ok refundRead).trans (firstConsumed.trans restConsumed)
        simpa using consumed

theorem list (each : Accounts reader write charges holds) (size : Nat) :
    Accounts (Reader.list size reader) (writeList write) (Charge.ofList size charges)
      fun values => ∀ value ∈ values, holds value where
  account := by
    intro feed after values read
    obtain ⟨count, counted, countRead, read⟩ := bind_eq_ok read
    obtain ⟨_, claimed, claimRead, read⟩ := bind_eq_ok read
    obtain ⟨length, hold, itemsConsumed⟩ := each.items size read
    obtain ⟨-, countConsumed⟩ := (nat .word64).account countRead
    have consumed := countConsumed.trans ((claim_eq_ok claimRead).trans itemsConsumed)
    rw [← length] at consumed
    refine ⟨hold, ?_⟩
    simpa [writeList, Charge.ofList, Word.size] using consumed

/-- An item that may be missing stands behind a byte that tells. -/
theorem optional (each : Accounts reader write charges holds) :
    Accounts (Reader.optional reader)
      (fun found => match found with
        | none => [0]
        | some value => 1 :: write value)
      (fun found => match found with
        | none => [Charge.claim 1]
        | some value => Charge.claim 1 :: charges value)
      fun found => ∀ value ∈ found, holds value where
  account := by
    intro feed after found read
    obtain ⟨_, claimed, claimRead, read⟩ := bind_eq_ok read
    obtain ⟨lead, led, leadRead, read⟩ := bind_eq_ok read
    have start := (claim_eq_ok claimRead).trans (byte_eq_ok leadRead)
    split at read
    next absent =>
      cases read
      exact ⟨nofun, start⟩
    next other =>
      split at read
      next present =>
        obtain ⟨value, between, valueRead, read⟩ := bind_eq_ok read
        cases read
        obtain ⟨held, consumed⟩ := each.account valueRead
        refine ⟨fun _ same => Option.some.inj same ▸ held, ?_⟩
        have consumed := start.trans consumed
        simpa [Nat.add_comm] using consumed
      next unknown => cases read

end Items

theorem bytes : Accounts Reader.bytes writeBytes Charge.ofBytes fun _ => True where
  account := by
    intro feed after content read
    obtain ⟨count, counted, countRead, read⟩ := bind_eq_ok read
    obtain ⟨_, claimed, claimRead, read⟩ := bind_eq_ok read
    obtain ⟨length, taken⟩ := take_eq_ok read
    obtain ⟨-, countConsumed⟩ := (nat .word64).account countRead
    have consumed := countConsumed.trans ((claim_eq_ok claimRead).trans taken)
    rw [← length] at consumed
    refine ⟨trivial, ?_⟩
    simpa [writeBytes, Charge.ofBytes, Word.size] using consumed

/-- A text that is read has the bytes it was read from. -/
theorem text : Accounts Reader.text writeText Charge.ofText fun _ => True where
  account := by
    intro feed after content read
    obtain ⟨spelled, between, spelledRead, read⟩ := bind_eq_ok read
    obtain ⟨-, consumed⟩ := bytes.account spelledRead
    cases decoded : Utf8.decode spelled with
    | ok characters =>
        rw [decoded] at read
        cases read
        rw [writeText, Charge.ofText, String.toList_ofList, Utf8.encode_of_decode decoded]
        exact ⟨trivial, consumed⟩
    | error malformed =>
        rw [decoded] at read
        cases read

end Accounts

end RecordDerive.Wire
