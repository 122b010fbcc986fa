import RecordDerive.Proofs.Wire.Consumption

/-!
# How far a reading reaches

A reading that succeeds depends on the bytes it uses up and on nothing behind them.
With any other bytes behind them it gives the same value, and with some of them missing
at the end it finds the input too short: whatever it checks before it meets the gap, it
checked in the same way on the whole input.  `Spans` says so of one stretch of bytes, and
`Delimits` of all that a reader accepts.
-/

namespace RecordDerive.Wire

/-- A reader takes these bytes for a value, whatever stands behind them, and where they
are cut off misses no more bytes than were cut off. -/
structure Spans {α : Type} (reader : Reader α) (used : List UInt8) (claimed settled : Nat)
    (value : α) : Prop where
  whole : ∀ rest, reader ⟨used ++ rest, claimed⟩ = .ok (value, ⟨rest, settled⟩)
  cut : ∀ kept, kept <+: used → kept ≠ used → ∃ missing, 0 < missing ∧
    kept.length + missing ≤ used.length ∧ reader ⟨kept, claimed⟩ = .error (.endOfInput missing)

/-- What a reader accepts is told by the bytes it uses up. -/
structure Delimits {α : Type} (reader : Reader α) : Prop where
  delimit : ∀ {feed after : Feed} {value : α}, reader feed = .ok (value, after) →
    ∃ used, feed.ahead = used ++ after.ahead ∧ Spans reader used feed.claimed after.claimed value

section Spans

variable {α β : Type} {reader : Reader α} {next : α → Reader β} {value : α} {result : β}
  {used used' : List UInt8} {claimed between settled : Nat}

/-- No bytes can be cut off where none are used. -/
theorem Spans.ofNone
    (whole : ∀ rest, reader ⟨rest, claimed⟩ = .ok (value, ⟨rest, settled⟩)) :
    Spans reader [] claimed settled value where
  whole := whole
  cut := by
    intro kept begins differs
    exact absurd (List.prefix_nil.mp begins) differs

theorem bind_of_ok {feed after : Feed} (read : reader feed = .ok (value, after)) :
    (reader >>= next) feed = next value after := by
  change (reader feed >>= fun step => next step.1 step.2) = _
  rw [read]
  rfl

theorem bind_of_error {feed : Feed} {fault : Fault} (stopped : reader feed = .error fault) :
    (reader >>= next) feed = .error fault := by
  change (reader feed >>= fun step => next step.1 step.2) = _
  rw [stopped]
  rfl

/-- Where two stretches are cut short, the end lies inside the first one, or behind it
and inside the second. -/
theorem cut_append {kept : List UInt8} (begins : kept <+: used ++ used')
    (differs : kept ≠ used ++ used') :
    (kept <+: used ∧ kept ≠ used) ∨
      ∃ more, kept = used ++ more ∧ more <+: used' ∧ more ≠ used' := by
  rcases List.prefix_or_prefix_of_prefix begins (List.prefix_append used used') with
    within | ⟨more, rfl⟩
  · by_cases same : kept = used
    · subst same
      exact .inr ⟨[], (List.append_nil kept).symm, List.nil_prefix, by simpa using differs⟩
    · exact .inl ⟨within, same⟩
  · rw [List.prefix_append_right_inj] at begins
    exact .inr ⟨more, rfl, begins, by simpa using differs⟩

theorem Spans.bind (first : Spans reader used claimed between value)
    (second : Spans (next value) used' between settled result) :
    Spans (reader >>= next) (used ++ used') claimed settled result where
  whole := by
    intro rest
    rw [List.append_assoc, bind_of_ok (first.whole _)]
    exact second.whole rest
  cut := by
    intro kept begins differs
    rw [List.length_append]
    rcases cut_append begins differs with ⟨within, short⟩ | ⟨more, rfl, within, short⟩
    · obtain ⟨missing, some, few, stopped⟩ := first.cut kept within short
      exact ⟨missing, some, by omega, bind_of_error stopped⟩
    · obtain ⟨missing, some, few, stopped⟩ := second.cut more within short
      refine ⟨missing, some, ?_, ?_⟩
      · rw [List.length_append]
        omega
      · rw [bind_of_ok (first.whole more)]
        exact stopped

end Spans

namespace Delimits

variable {α β : Type}

theorem pure (value : α) : Delimits (Pure.pure value) where
  delimit := by
    intro feed after found read
    cases read
    exact ⟨[], rfl, .ofNone fun _ => rfl⟩

theorem bind {reader : Reader α} {next : α → Reader β} (first : Delimits reader)
    (second : ∀ value, Delimits (next value)) : Delimits (reader >>= next) where
  delimit := by
    intro feed after result read
    obtain ⟨value, between, firstRead, secondRead⟩ := Reader.bind_eq_ok read
    obtain ⟨used, ahead, spans⟩ := first.delimit firstRead
    obtain ⟨used', ahead', spans'⟩ := (second value).delimit secondRead
    refine ⟨used ++ used', ?_, spans.bind spans'⟩
    rw [ahead, ahead', List.append_assoc]

theorem claim (count : Nat) : Delimits (Reader.claim count) where
  delimit := by
    intro feed after answer read
    rw [Reader.claim] at read
    split at read
    next below =>
      cases read
      exact ⟨[], rfl, .ofNone fun _ => if_pos below⟩
    next above => cases read

/-- A fixed number of bytes is missing as many as are not at hand. -/
theorem spans_take (bytes : List UInt8) (claimed : Nat) :
    Spans (Reader.take bytes.length) bytes claimed claimed bytes where
  whole := by
    intro rest
    simp [Reader.take]
  cut := by
    intro kept begins differs
    have short : kept.length < bytes.length := by
      apply Nat.lt_of_le_of_ne begins.length_le
      intro same
      exact differs (begins.eq_of_length same)
    refine ⟨bytes.length - kept.length, Nat.sub_pos_of_lt short, by omega, ?_⟩
    have all : kept.take bytes.length = kept := List.take_of_length_le (Nat.le_of_lt short)
    simp only [Reader.take, all]
    exact if_neg (Nat.ne_of_lt short)

theorem take (count : Nat) : Delimits (Reader.take count) where
  delimit := by
    intro feed after bytes read
    simp only [Reader.take] at read
    split at read
    next enough =>
      cases read
      refine ⟨feed.ahead.take count, (List.take_append_drop count feed.ahead).symm, ?_⟩
      have spans := spans_take (feed.ahead.take count) feed.claimed
      rwa [enough] at spans
    next missing => cases read

/-! ### Integers -/

section Integers

variable {word : Word} {claimed : Nat} {lead : UInt8}

theorem nat_nil (within : claimed + word.size ≤ claimLimit) :
    Reader.nat word ⟨[], claimed⟩ = .error (.endOfInput 1) := by
  rw [Reader.nat, bind_of_ok (if_pos within)]
  rfl

/-- How an integer goes on behind its lead byte. -/
theorem nat_cons (within : claimed + word.size ≤ claimLimit) (rest : List UInt8) :
    Reader.nat word ⟨lead :: rest, claimed⟩ =
      (if lead ≤ 250 then Pure.pure lead.toNat
      else if 0 < (Reader.spelling lead).size ∧ (Reader.spelling lead).size ≤ word.size then
        (do return Reader.ofLittleEndian (← Reader.take (Reader.spelling lead).size))
      else throw (.wideInteger (Reader.expectedSpelling word (rest.length + 1))
        (Reader.spelling lead)) : Reader Nat) ⟨rest, claimed + word.size⟩ := by
  rw [Reader.nat, bind_of_ok (if_pos within)]
  rfl

/-- A lead byte that is the number. -/
theorem spans_short (within : claimed + word.size ≤ claimLimit) (short : lead ≤ 250) :
    Spans (Reader.nat word) [lead] claimed (claimed + word.size) lead.toNat where
  whole := by
    intro rest
    rw [List.singleton_append, nat_cons within, if_pos short]
    rfl
  cut := by
    intro kept begins differs
    cases kept with
    | nil => exact ⟨1, Nat.one_pos, Nat.le_refl 1, nat_nil within⟩
    | cons first more =>
        obtain ⟨rfl, further⟩ := List.cons_prefix_cons.mp begins
        exact absurd (congrArg (first :: ·) (List.prefix_nil.mp further)) differs

/-- A lead byte that announces the bytes of the number. -/
theorem spans_long (within : claimed + word.size ≤ claimLimit) (long : ¬lead ≤ 250)
    (fits : 0 < (Reader.spelling lead).size ∧ (Reader.spelling lead).size ≤ word.size)
    {bytes : List UInt8} {settled number : Nat}
    (spelled : Spans (do return Reader.ofLittleEndian (← Reader.take (Reader.spelling lead).size))
      bytes (claimed + word.size) settled number) :
    Spans (Reader.nat word) (lead :: bytes) claimed settled number where
  whole := by
    intro rest
    rw [List.cons_append, nat_cons within, if_neg long, if_pos fits]
    exact spelled.whole rest
  cut := by
    intro kept begins differs
    cases kept with
    | nil => exact ⟨1, Nat.one_pos, by simp, nat_nil within⟩
    | cons first more =>
        obtain ⟨rfl, further⟩ := List.cons_prefix_cons.mp begins
        obtain ⟨missing, some, few, stopped⟩ :=
          spelled.cut more further fun same => differs (by rw [same])
        refine ⟨missing, some, ?_, ?_⟩
        · simpa [Nat.add_right_comm] using few
        · rw [nat_cons within, if_neg long, if_pos fits]
          exact stopped

/-- An integer ends with the bytes its lead byte announces.  How many bytes there are
in all shows only in the wording of a refusal. -/
theorem nat (word : Word) : Delimits (Reader.nat word) where
  delimit := by
    intro feed after number read
    obtain ⟨_, claimed, claimRead, later⟩ := Reader.bind_eq_ok read
    have within : feed.claimed + word.size ≤ claimLimit := by
      rw [Reader.claim] at claimRead
      split at claimRead
      next below => exact below
      next above => cases claimRead
    obtain ⟨ahead, count⟩ := feed
    cases ahead with
    | nil => cases read.symm.trans (nat_nil within)
    | cons lead rest =>
        rw [nat_cons within] at read
        split at read
        next short =>
          cases read
          exact ⟨[lead], rfl, spans_short within short⟩
        next long =>
          split at read
          next fits =>
            obtain ⟨used, ahead, spelled⟩ := ((take _).bind fun _ => pure _).delimit read
            exact ⟨lead :: used, congrArg (lead :: ·) ahead, spans_long within long fits spelled⟩
          next misfit => cases read

end Integers

theorem bytes : Delimits Reader.bytes :=
  (nat .word64).bind fun count => (claim count).bind fun _ => take count

end Delimits

end RecordDerive.Wire
