import RecordDerive.Proofs.Wire.Consumption

/-!
# What is written is written in one way

Bytes that begin with those of a value begin with those of no other one.  For parts of a
fixed size this follows from reading them back.  Lists have no bound on their size, and a
reader stops at the limit; so for them it is shown of the bytes themselves, from the length
in front of them.  Only lengths that eight bytes can spell tell values apart: a longer one
would be cut to what eight bytes hold of it.
-/

namespace RecordDerive.Wire

/-- Whether all of some lengths can be spelled. -/
def Spellable (lengths : List Nat) : Prop :=
  ∀ length ∈ lengths, length < Word.word64.bound

instance (lengths : List Nat) : Decidable (Spellable lengths) :=
  inferInstanceAs (Decidable (∀ length ∈ lengths, length < Word.word64.bound))

namespace Spellable

variable {length : Nat} {lengths more : List Nat}

theorem cons_iff : Spellable (length :: lengths) ↔ length < Word.word64.bound ∧ Spellable lengths :=
  List.forall_mem_cons

theorem singleton_iff : Spellable [length] ↔ length < Word.word64.bound :=
  List.forall_mem_singleton

theorem append_iff : Spellable (lengths ++ more) ↔ Spellable lengths ∧ Spellable more :=
  List.forall_mem_append

end Spellable

/-- The lengths in a list: its own, and those in its items. -/
def listLengths {α : Type} (lengths : α → List Nat) (values : List α) : List Nat :=
  values.length :: values.flatMap lengths

/-- The length in a text, which is that of its bytes. -/
def textLengths (content : String) : List Nat :=
  [(Utf8.encode content.toList).length]

/-- A value is told from others by its bytes, whatever stands behind them, if the lengths in
both can be spelled. -/
structure Told {α : Type} (write : α → List UInt8) (lengths : α → List Nat) (value : α) : Prop where
  apart : ∀ (other : α) {rest rest' : List UInt8}, Spellable (lengths value) →
    Spellable (lengths other) → write value ++ rest = write other ++ rest' →
      value = other ∧ rest = rest'

namespace Told

variable {α β : Type} {write : α → List UInt8} {lengths : α → List Nat}
  {write' : β → List UInt8} {lengths' : β → List Nat}

/-- What a reader gives back within the limit is told by its bytes. -/
theorem ofReads {reader : Reader α} {charges : α → List Charge}
    (reads : ∀ value, Spellable (lengths value) →
      Reads reader (write value) (charges value) True value)
    (light : ∀ value, Charge.peak 0 (charges value) ≤ claimLimit) (value : α) :
    Told write lengths value where
  apart := by
    intro other rest rest' counted counted' same
    have read := (reads value counted).accepts rest 0 trivial (light value)
    have read' := (reads other counted').accepts rest' 0 trivial (light other)
    rw [same, read'] at read
    cases read
    exact ⟨rfl, rfl⟩

/-- A value may be looked at in another shape, if that loses nothing of it. -/
theorem image (view : β → α) (injective : Function.Injective view) {value : β}
    (told : Told write lengths (view value)) :
    Told (fun value => write (view value)) (fun value => lengths (view value)) value where
  apart := by
    intro other rest rest' counted counted' same
    obtain ⟨equal, behind⟩ := told.apart _ counted counted' same
    exact ⟨injective equal, behind⟩

/-- The bytes of two values one after the other tell both. -/
theorem pair {first : α} {second : β} (told : Told write lengths first)
    (told' : Told write' lengths' second) :
    Told (fun both : α × β => write both.1 ++ write' both.2)
      (fun both => lengths both.1 ++ lengths' both.2) (first, second) where
  apart := by
    rintro ⟨other, other'⟩ rest rest' counted counted' same
    obtain ⟨here, there⟩ := Spellable.append_iff.mp counted
    obtain ⟨here', there'⟩ := Spellable.append_iff.mp counted'
    rw [List.append_assoc, List.append_assoc] at same
    obtain ⟨rfl, later⟩ := told.apart _ here here' same
    obtain ⟨rfl, behind⟩ := told'.apart _ there there' later
    exact ⟨rfl, behind⟩

/-- Alone, too, the bytes of a value are those of no other one. -/
theorem eq_of_write_eq {value other : α} (told : Told write lengths value)
    (counted : Spellable (lengths value)) (counted' : Spellable (lengths other))
    (same : write value = write other) : value = other :=
  (told.apart _ counted counted' (congrArg (· ++ []) same)).1

/-! ## Numbers -/

theorem nat (number : Nat) : Told writeNat (fun number => [number]) number :=
  ofReads (fun _ counted => Reads.nat .word64 (Spellable.singleton_iff.mp counted))
    (fun _ => by decide) number

theorem bool (value : Bool) : Told writeBool (fun _ => []) value :=
  ofReads (fun value _ => .bool value) (fun _ => by decide) value

/-! ## Byte strings and lists -/

theorem bytes (content : List UInt8) :
    Told writeBytes (fun content => [content.length]) content where
  apart := by
    intro other rest rest' counted counted' same
    rw [writeBytes, writeBytes, List.append_assoc, List.append_assoc] at same
    obtain ⟨length, later⟩ := (nat content.length).apart _ counted counted' same
    exact List.append_inj later length

theorem text (content : String) :
    Told writeText textLengths content := by
  refine image (fun content : String => Utf8.encode content.toList) ?_ (bytes _)
  intro content other same
  have read := congrArg Utf8.decode same
  dsimp only at read
  rw [Utf8.decode_encode, Utf8.decode_encode] at read
  exact String.toList_inj.mp (Except.ok.inj read)

/-- As many items on both sides are told one by one. -/
theorem items {values others : List α} (each : ∀ value ∈ values, Told write lengths value)
    (length : values.length = others.length) {rest rest' : List UInt8}
    (counted : Spellable (values.flatMap lengths)) (counted' : Spellable (others.flatMap lengths))
    (same : values.flatMap write ++ rest = others.flatMap write ++ rest') :
    values = others ∧ rest = rest' := by
  induction values generalizing others with
  | nil =>
      obtain rfl := List.length_eq_zero_iff.mp length.symm
      exact ⟨rfl, same⟩
  | cons first values ih =>
      obtain ⟨first', others, rfl⟩ := List.exists_cons_of_length_eq_add_one length.symm
      obtain ⟨told, later⟩ := List.forall_mem_cons.mp each
      rw [List.flatMap_cons, List.flatMap_cons, List.append_assoc, List.append_assoc] at same
      obtain ⟨here, there⟩ := Spellable.append_iff.mp counted
      obtain ⟨here', there'⟩ := Spellable.append_iff.mp counted'
      obtain ⟨rfl, behind⟩ := told.apart _ here here' same
      obtain ⟨rfl, ended⟩ := ih later (Nat.succ.inj length) there there' behind
      exact ⟨rfl, ended⟩

theorem list {values : List α} (each : ∀ value ∈ values, Told write lengths value) :
    Told (writeList write) (listLengths lengths) values where
  apart := by
    intro others rest rest' counted counted' same
    obtain ⟨spelled, inner⟩ := Spellable.cons_iff.mp counted
    obtain ⟨spelled', inner'⟩ := Spellable.cons_iff.mp counted'
    rw [writeList, writeList, List.append_assoc, List.append_assoc] at same
    obtain ⟨length, behind⟩ := (nat values.length).apart _ (Spellable.singleton_iff.mpr spelled)
      (Spellable.singleton_iff.mpr spelled') same
    exact items each length inner inner' behind

end Told

/-- A byte string with its length in front of it is no other one, however long they are. -/
theorem writeBytes_injective : Function.Injective writeBytes := by
  intro content other same
  have sizes := congrArg List.length same
  simp only [writeBytes, List.length_append] at sizes
  have length : content.length = other.length := by
    rcases Nat.le_total content.length other.length with shorter | longer
    · have spelled := writeNat_length_mono shorter
      omega
    · have spelled := writeNat_length_mono longer
      omega
  rw [writeBytes, writeBytes, length] at same
  exact List.append_cancel_left same

end RecordDerive.Wire
