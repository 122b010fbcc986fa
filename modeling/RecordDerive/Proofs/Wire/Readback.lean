import RecordDerive.Proofs.Wire.Charge
import RecordDerive.Proofs.Wire.Utf8

/-!
# Reading back what was written

`Reads` ties a reader to the bytes of one value, to the charges of the value and
to a bound on its nesting.  In front of any bytes at all the reader gives the
value back, if the nesting is within its bound and the charges stay under the
limit, and otherwise stops at the one or the other.  The relation passes through
the monad, so a format is described by joining the facts about its parts.
-/

namespace RecordDerive.Wire

/-- The numbers below which a number has one of its type's spellings. -/
def Word.bound : Word → Nat
  | .word16 => 65536
  | .word32 => 4294967296
  | .word64 => 18446744073709551616

/-! ## Lengths -/

theorem writeNat_length_pos (number : Nat) : 0 < (writeNat number).length := by
  unfold writeNat
  split
  · exact Nat.one_pos
  split
  · exact Nat.succ_pos _
  split <;> exact Nat.succ_pos _

theorem length_le_flatMap {α : Type} {write : α → List UInt8} {values : List α}
    (written : ∀ value ∈ values, 0 < (write value).length) :
    values.length ≤ (values.flatMap write).length := by
  induction values with
  | nil => exact Nat.le_refl 0
  | cons first rest ih =>
      have one := written first List.mem_cons_self
      have others := ih fun value member => written value (List.mem_cons_of_mem first member)
      simp only [List.length_cons, List.flatMap_cons, List.length_append]
      omega

theorem length_le_flatMap_of_mem {α : Type} (write : α → List UInt8) {values : List α} {value : α}
    (member : value ∈ values) : (write value).length ≤ (values.flatMap write).length := by
  obtain ⟨before, after, rfl⟩ := List.append_of_mem member
  simp only [List.flatMap_append, List.flatMap_cons, List.length_append]
  omega

/-! ## The relation -/

/-- How a reader meets the bytes of a value, whatever stands after them.
`shallow` says that the value nests no deeper than the reader follows. -/
structure Reads {α : Type} (reader : Reader α) (bytes : List UInt8) (charges : List Charge)
    (shallow : Prop) (value : α) : Prop where
  accepts : ∀ (rest : List UInt8) (claimed : Nat),
    shallow → Charge.peak claimed charges ≤ claimLimit →
      reader ⟨bytes ++ rest, claimed⟩ = .ok (value, ⟨rest, Charge.settle claimed charges⟩)
  refuses : ∀ (rest : List UInt8) (claimed : Nat),
    claimed ≤ claimLimit → ¬(shallow ∧ Charge.peak claimed charges ≤ claimLimit) →
      claimLimit < Charge.peak claimed charges ∧
          reader ⟨bytes ++ rest, claimed⟩ = .error .limitExceeded ∨
        ¬shallow ∧ reader ⟨bytes ++ rest, claimed⟩ = .error .nestedTooDeeply

namespace Reads

variable {α β : Type}

/-- A reader that leaves the count alone never meets the limit. -/
theorem ofFree {reader : Reader α} {bytes : List UInt8} {value : α}
    (free : ∀ rest claimed, reader ⟨bytes ++ rest, claimed⟩ = .ok (value, ⟨rest, claimed⟩)) :
    Reads reader bytes [] True value where
  accepts := fun rest claimed _ _ => free rest claimed
  refuses := fun _ _ within exceeded => (exceeded ⟨trivial, within⟩).elim

theorem pure (value : α) : Reads (Pure.pure value) [] [] True value :=
  ofFree fun _ _ => rfl

/-- Readers one after the other meet the bytes of their values one after the
other. -/
theorem bind {reader : Reader α} {next : α → Reader β} {value : α} {result : β}
    {firstBytes secondBytes : List UInt8} {firstCharges secondCharges : List Charge}
    {firstShallow secondShallow : Prop}
    (first : Reads reader firstBytes firstCharges firstShallow value)
    (second : Reads (next value) secondBytes secondCharges secondShallow result) :
    Reads (reader >>= next) (firstBytes ++ secondBytes) (firstCharges ++ secondCharges)
      (firstShallow ∧ secondShallow) result where
  accepts := by
    intro rest claimed shallow within
    rw [Charge.peak_append] at within
    have firstRead := first.accepts (secondBytes ++ rest) claimed shallow.1 (by omega)
    have secondRead := second.accepts rest (Charge.settle claimed firstCharges) shallow.2
      (by omega)
    change (reader ⟨firstBytes ++ secondBytes ++ rest, claimed⟩ >>= fun read =>
      next read.1 read.2) = _
    rw [List.append_assoc, firstRead, Charge.settle_append]
    exact secondRead
  refuses := by
    intro rest claimed within exceeded
    rw [Charge.peak_append] at exceeded ⊢
    change _ ∧ (reader ⟨firstBytes ++ secondBytes ++ rest, claimed⟩ >>= fun read =>
        next read.1 read.2) = _ ∨
      _ ∧ (reader ⟨firstBytes ++ secondBytes ++ rest, claimed⟩ >>= fun read =>
        next read.1 read.2) = _
    rw [List.append_assoc]
    by_cases firstWithin : firstShallow ∧ Charge.peak claimed firstCharges ≤ claimLimit
    · have settled := Charge.settle_le_peak claimed firstCharges
      rw [first.accepts _ _ firstWithin.1 firstWithin.2]
      rcases second.refuses rest (Charge.settle claimed firstCharges)
          (by omega) (fun secondWithin => exceeded ⟨⟨firstWithin.1, secondWithin.1⟩, by omega⟩)
        with ⟨above, stopped⟩ | ⟨deep, stopped⟩
      · exact .inl ⟨by omega, stopped⟩
      · exact .inr ⟨fun shallow => deep shallow.2, stopped⟩
    · rcases first.refuses (secondBytes ++ rest) _ within firstWithin
        with ⟨above, stopped⟩ | ⟨deep, stopped⟩
      · exact .inl ⟨by omega, by rw [stopped]; rfl⟩
      · exact .inr ⟨fun shallow => deep shallow.1, by rw [stopped]; rfl⟩

/-- The bound on nesting may be said in other words. -/
theorem ofIff {reader : Reader α} {bytes : List UInt8} {charges : List Charge}
    {shallow shallow' : Prop} {value : α} (reads : Reads reader bytes charges shallow value)
    (same : shallow ↔ shallow') : Reads reader bytes charges shallow' value := by
  rw [← propext same]
  exact reads

/-- A reader may be followed through its first steps. -/
theorem ofStep {reader later : Reader α} {bytes remaining : List UInt8} {charges : List Charge}
    {shallow : Prop} {value : α} (reads : Reads later remaining charges shallow value)
    (step : ∀ rest claimed,
      reader ⟨bytes ++ rest, claimed⟩ = later ⟨remaining ++ rest, claimed⟩) :
    Reads reader bytes charges shallow value where
  accepts := by
    intro rest claimed
    rw [step]
    exact reads.accepts rest claimed
  refuses := by
    intro rest claimed
    rw [step]
    exact reads.refuses rest claimed

/-! ## Claims and single bytes -/

theorem claim (count : Nat) : Reads (Reader.claim count) [] [Charge.claim count] True () where
  accepts := by
    intro rest claimed _ within
    simp only [Charge.peak, Charge.apply] at within
    have below : claimed + count ≤ claimLimit := by omega
    exact if_pos below
  refuses := by
    intro rest claimed within exceeded
    simp only [Charge.peak, Charge.apply, true_and] at exceeded
    have above : ¬claimed + count ≤ claimLimit := by omega
    refine .inl ⟨?_, if_neg above⟩
    simp only [Charge.peak, Charge.apply]
    omega

theorem refund (count : Nat) : Reads (Reader.refund count) [] [.refund count] True () where
  accepts := fun _ _ _ _ => rfl
  refuses := by
    intro rest claimed within exceeded
    simp only [Charge.peak, Charge.apply, true_and] at exceeded
    omega

theorem take (bytes : List UInt8) : Reads (Reader.take bytes.length) bytes [] True bytes :=
  ofFree fun rest claimed => by simp [Reader.take]

theorem byte (byte : UInt8) : Reads Reader.byte [byte] [] True byte :=
  ofFree fun _ _ => rfl

theorem bool (value : Bool) : Reads Reader.bool (writeBool value) [Charge.claim 1] True value := by
  have reads : Reads Reader.bool ([] ++ (writeBool value ++ [])) ([Charge.claim 1] ++ ([] ++ []))
      (True ∧ True ∧ True) value :=
    bind (claim 1) (bind (byte _) (by cases value <;> exact pure _))
  simpa using reads

/-! ## Integers -/

/-- How many numbers are spelled by so many bytes. -/
def span : Nat → Nat
  | 0 => 1
  | count + 1 => 256 * span count

/-- Bytes spell the number they were made from, as far as they reach. -/
theorem ofLittleEndian_littleEndian (count number : Nat) :
    Reader.ofLittleEndian (littleEndian count number) = number % span count := by
  induction count generalizing number with
  | zero => simp [littleEndian, Reader.ofLittleEndian, span, Nat.mod_one]
  | succ count ih =>
      simp only [Reader.ofLittleEndian] at ih
      simp only [littleEndian, Reader.ofLittleEndian, List.foldr_cons, ih, span, Nat.mod_mul]
      simp

@[simp] theorem littleEndian_length (count number : Nat) :
    (littleEndian count number).length = count := by
  induction count generalizing number with
  | zero => rfl
  | succ count ih => simp [littleEndian, ih]

/-- A small number is its own lead byte. -/
theorem natSmall {word : Word} {number : Nat} (small : number ≤ 250) :
    Reads (Reader.nat word) [UInt8.ofNat number] [Charge.claim word.size] True number := by
  have value : (UInt8.ofNat number).toNat = number := by
    rw [UInt8.toNat_ofNat']
    exact Nat.mod_eq_of_lt (by omega)
  have lead : UInt8.ofNat number ≤ 250 := by
    rw [UInt8.le_iff_toNat_le, value]
    exact small
  have reads : Reads (Reader.nat word) ([] ++ [UInt8.ofNat number])
      ([Charge.claim word.size] ++ []) (True ∧ True) number := by
    refine bind (claim word.size) (ofStep (pure number) fun rest claimed => ?_)
    change (if UInt8.ofNat number ≤ 250 then Pure.pure (UInt8.ofNat number).toNat
      else _ : Reader Nat) ⟨rest, claimed⟩ = _
    rw [if_pos lead, value]
    rfl
  simpa using reads

/-- A wide number stands behind the lead byte of its spelling. -/
theorem natBehind {word : Word} (number : Nat) {lead : UInt8} {found : Spelling}
    (wide : ¬lead ≤ 250) (announced : Reader.spelling lead = found)
    (fits : 0 < found.size ∧ found.size ≤ word.size) :
    Reads (Reader.nat word) (lead :: littleEndian found.size number) [Charge.claim word.size] True
      (number % span found.size) := by
  have taken := take (littleEndian found.size number)
  rw [littleEndian_length] at taken
  have spelled : Reads (do return Reader.ofLittleEndian (← Reader.take found.size))
      (littleEndian found.size number ++ []) ([] ++ []) (True ∧ True)
      (number % span found.size) := by
    rw [← ofLittleEndian_littleEndian]
    exact bind taken (pure _)
  have reads : Reads (Reader.nat word)
      ([] ++ lead :: (littleEndian found.size number ++ []))
      ([Charge.claim word.size] ++ ([] ++ [])) (True ∧ True ∧ True) (number % span found.size) := by
    refine bind (claim word.size) (ofStep spelled fun rest claimed => ?_)
    change (if lead ≤ 250 then Pure.pure lead.toNat
      else if 0 < (Reader.spelling lead).size ∧ (Reader.spelling lead).size ≤ word.size then
        (do return Reader.ofLittleEndian (← Reader.take (Reader.spelling lead).size))
      else throw _ : Reader Nat) ⟨littleEndian found.size number ++ [] ++ rest, claimed⟩ = _
    rw [if_neg wide, announced, if_pos fits]
  simpa using reads

/-- A number is read at every type that has a spelling for it. -/
theorem nat (word : Word) {number : Nat} (small : number < word.bound) :
    Reads (Reader.nat word) (writeNat number) [Charge.claim word.size] True number := by
  unfold writeNat
  by_cases one : number ≤ 250
  · rw [if_pos one]
    exact natSmall one
  rw [if_neg one]
  by_cases two : number < 65536
  · rw [if_pos two]
    have fits : 0 < Spelling.two.size ∧ Spelling.two.size ≤ word.size := by
      cases word <;> decide
    have reads := natBehind number (by decide : ¬(251 : UInt8) ≤ 250) rfl fits
    rwa [Nat.mod_eq_of_lt (by exact two)] at reads
  rw [if_neg two]
  by_cases four : number < 4294967296
  · rw [if_pos four]
    have fits : 0 < Spelling.four.size ∧ Spelling.four.size ≤ word.size := by
      cases word with
      | word16 => exact absurd small two
      | word32 => decide
      | word64 => decide
    have reads := natBehind number (by decide : ¬(252 : UInt8) ≤ 250) rfl fits
    rwa [Nat.mod_eq_of_lt (by exact four)] at reads
  rw [if_neg four]
  cases word with
  | word16 => exact absurd small two
  | word32 => exact absurd small four
  | word64 =>
      have fits : 0 < Spelling.eight.size ∧ Spelling.eight.size ≤ Word.word64.size := by decide
      have reads := natBehind number (by decide : ¬(253 : UInt8) ≤ 250) rfl fits
      rwa [Nat.mod_eq_of_lt (by exact small)] at reads

/-- At the widest type, numbers of any size are read as what eight bytes hold of
them. -/
theorem natWrapped (number : Nat) :
    Reads (Reader.nat .word64) (writeNat number) [.claim 8] True
      (number % Word.word64.bound) := by
  by_cases small : number < Word.word64.bound
  · rw [Nat.mod_eq_of_lt small]
    exact nat .word64 small
  · have wide : ¬number ≤ 250 ∧ ¬number < 65536 ∧ ¬number < 4294967296 := by
      simp only [Word.bound] at small
      omega
    rw [writeNat, if_neg wide.1, if_neg wide.2.1, if_neg wide.2.2]
    have fits : 0 < Spelling.eight.size ∧ Spelling.eight.size ≤ Word.word64.size := by decide
    exact natBehind number (by decide) rfl fits

/-- A tag is read by a type that has it. -/
theorem tag {type : Tagged} {number : Nat} (known : number ≤ type.last)
    (small : number < Word.word32.bound) :
    Reads (Reader.tag type) (writeNat number) [Charge.claim 4] True number := by
  have reads : Reads (Reader.tag type) (writeNat number ++ []) ([Charge.claim 4] ++ [])
      (True ∧ True) number := by
    refine bind (nat .word32 small) ?_
    rw [if_pos known]
    exact pure number
  simpa using reads

/-! ## Lists and texts -/

/-- An item that is there stands behind a one. -/
theorem optionalSome {reader : Reader α} {bytes : List UInt8} {charges : List Charge}
    {shallow : Prop} {value : α} (reads : Reads reader bytes charges shallow value) :
    Reads (Reader.optional reader) (1 :: bytes) (.claim 1 :: charges) shallow (some value) := by
  have present : Reads (Reader.optional reader) ([] ++ ([1] ++ (bytes ++ [])))
      ([Charge.claim 1] ++ ([] ++ (charges ++ []))) (True ∧ True ∧ shallow ∧ True) (some value) :=
    bind (claim 1) (bind (byte 1) (bind reads (pure (some value))))
  simpa using present

/-- A zero stands for an item that is not there. -/
theorem optionalNone (reader : Reader α) :
    Reads (Reader.optional reader) [0] [Charge.claim 1] True none := by
  have absent : Reads (Reader.optional reader) ([] ++ ([0] ++ [])) ([Charge.claim 1] ++ ([] ++ []))
      (True ∧ True ∧ True) none :=
    bind (claim 1) (bind (byte 0) (pure none))
  simpa using absent

/-- Items are read one after the other if each is. -/
theorem items {size : Nat} {reader : Reader α} {write : α → List UInt8}
    {charges : α → List Charge} {shallow : α → Prop} {values : List α}
    (each : ∀ value ∈ values, Reads reader (write value) (charges value) (shallow value) value) :
    Reads (Reader.items size reader values.length) (values.flatMap write)
      (values.flatMap fun value => Charge.refund size :: charges value)
      (∀ value ∈ values, shallow value) values := by
  induction values with
  | nil => exact (pure []).ofIff (by simp)
  | cons first rest ih =>
      have reads : Reads (Reader.items size reader (rest.length + 1))
          ([] ++ (write first ++ (rest.flatMap write ++ [])))
          ([Charge.refund size] ++ (charges first ++
            ((rest.flatMap fun value => Charge.refund size :: charges value) ++ [])))
          (True ∧ shallow first ∧ (∀ value ∈ rest, shallow value) ∧ True) (first :: rest) :=
        bind (refund size) (bind (each first List.mem_cons_self)
          (bind (ih fun value member => each value (List.mem_cons_of_mem first member)) (pure _)))
      simpa using reads

/-- A list is read if its items are: as every item takes a byte at least, a list
whose bytes can be counted has a length that can be. -/
theorem list {size : Nat} {reader : Reader α} {write : α → List UInt8}
    {charges : α → List Charge} {shallow : α → Prop} {values : List α}
    (each : ∀ value ∈ values, (write value).length < Word.word64.bound →
      Reads reader (write value) (charges value) (shallow value) value)
    (written : ∀ value ∈ values, 0 < (write value).length)
    (short : (writeList write values).length < Word.word64.bound) :
    Reads (Reader.list size reader) (writeList write values) (Charge.ofList size charges values)
      (∀ value ∈ values, shallow value) values := by
  rw [writeList, List.length_append] at short
  have count : values.length < Word.word64.bound := by
    have counted := length_le_flatMap written
    omega
  have reads : Reads (Reader.list size reader)
      (writeNat values.length ++ ([] ++ values.flatMap write))
      ([Charge.claim 8] ++ ([Charge.claim (values.length * size)] ++
        values.flatMap fun value => Charge.refund size :: charges value))
      (True ∧ True ∧ ∀ value ∈ values, shallow value) values := by
    refine bind (nat .word64 count) (bind (claim _)
      (items fun value member => each value member ?_))
    have part := length_le_flatMap_of_mem write member
    omega
  simpa [writeList, Charge.ofList] using reads

/-- A byte string is read if its length has a spelling. -/
theorem bytes {content : List UInt8} (short : (writeBytes content).length < Word.word64.bound) :
    Reads Reader.bytes (writeBytes content) (Charge.ofBytes content) True content := by
  rw [writeBytes, List.length_append] at short
  have reads : Reads Reader.bytes (writeNat content.length ++ ([] ++ content))
      ([Charge.claim 8] ++ ([Charge.claim content.length] ++ [])) (True ∧ True ∧ True) content :=
    bind (nat .word64 (by omega)) (bind (claim _) (take content))
  simpa [writeBytes, Charge.ofBytes] using reads

/-- A text is read if the length of its bytes has a spelling. -/
theorem text {content : String} (short : (writeText content).length < Word.word64.bound) :
    Reads Reader.text (writeText content) (Charge.ofText content) True content := by
  have reads : Reads Reader.text (writeText content ++ []) (Charge.ofText content ++ [])
      (True ∧ True) content := by
    refine bind (bytes short) ?_
    rw [Utf8.decode_encode]
    change Reads (Pure.pure (String.ofList content.toList)) _ _ _ _
    rw [String.ofList_toList]
    exact pure content
  simpa using reads

end Reads

end RecordDerive.Wire
