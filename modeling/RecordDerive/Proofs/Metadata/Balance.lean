import RecordDerive.Proofs.Metadata.Readback
import RecordDerive.Proofs.Wire.Consumption

/-!
# What a type claims in all

A list claims the space of all its items at once, and gives that of each item back before
the item makes claims of its own.  So nothing is given back that was not claimed, and what
remains claimed for a type is what its forms claim one by one.  That is no less than the
bytes it is written in.
-/

namespace RecordDerive.Metadata

open Wire

mutual

/-- What remains claimed for a type. -/
def TypeRef.toll : TypeRef → Nat
  | .named _ arguments _ => 4 + 4 + (8 + TypeRef.tollOf arguments) + 1
  | .parameter _ => 4 + 4
  | .tuple elements => 4 + (8 + TypeRef.tollOf elements)
  | .array element _ => 4 + element.toll + 8

/-- What remains claimed for the types of a list. -/
def TypeRef.tollOf : List TypeRef → Nat
  | [] => 0
  | first :: rest => first.toll + TypeRef.tollOf rest

end

mutual

theorem TypeRef.settle_charges : (type : TypeRef) → (claimed : Nat) →
    Charge.settle claimed type.charges = claimed + type.toll
  | .named _ arguments _, claimed => by
      have items := TypeRef.settle_chargesOf arguments (claimed + 4 + 4 + 8)
      simp only [TypeRef.charges, List.cons_append, Charge.settle_cons, Charge.settle_append,
        Charge.settle_nil, Charge.apply, TypeRef.toll, items]
      omega
  | .parameter _, claimed => rfl
  | .tuple elements, claimed => by
      have items := TypeRef.settle_chargesOf elements (claimed + 4 + 8)
      simp only [TypeRef.charges, Charge.settle_cons, Charge.apply, TypeRef.toll, items]
      omega
  | .array element _, claimed => by
      have inner := TypeRef.settle_charges element (claimed + 4)
      simp only [TypeRef.charges, List.cons_append, Charge.settle_cons, Charge.settle_append,
        Charge.settle_nil, Charge.apply, TypeRef.toll, inner]
      omega

/-- Types that the space of all of them was claimed for leave what each of them claims. -/
theorem TypeRef.settle_chargesOf : (types : List TypeRef) → (claimed : Nat) →
    Charge.settle (claimed + types.length * typeRefSize) (TypeRef.chargesOf types) =
      claimed + TypeRef.tollOf types
  | [], claimed => by simp [TypeRef.chargesOf, TypeRef.tollOf]
  | first :: rest, claimed => by
      have space : claimed + (rest.length + 1) * typeRefSize - typeRefSize =
          claimed + rest.length * typeRefSize := by
        rw [Nat.succ_mul]
        omega
      have here := TypeRef.settle_charges first (claimed + rest.length * typeRefSize)
      have later := TypeRef.settle_chargesOf rest (claimed + first.toll)
      simp only [TypeRef.chargesOf, List.length_cons, List.cons_append, Charge.settle_cons,
        Charge.settle_append, Charge.apply, TypeRef.tollOf, space, here]
      rw [Nat.add_right_comm, later, Nat.add_assoc]

end

/-! ## Bytes and claims -/

theorem length_writeNat_le (number : Nat) : (writeNat number).length ≤ 9 := by
  rw [writeNat_length]
  repeat' split
  all_goals omega

theorem index_length_le (index : UInt32) : (writeNat index.toNat).length ≤ 5 :=
  @Accounts.writeNat_length_le _ .four index.toNat_lt (by decide)

mutual

/-- A type is written in no more bytes than remain claimed for it. -/
theorem TypeRef.write_length_le_toll : (type : TypeRef) → type.write.length ≤ type.toll
  | .named name arguments _ => by
      have index := index_length_le name
      have length := length_writeNat_le arguments.length
      have items := TypeRef.writeAll_length_le_tollOf arguments
      have tag : (writeNat 0).length = 1 := rfl
      simp only [TypeRef.write, TypeRef.toll, List.length_append, writeBool, List.length_singleton]
      omega
  | .parameter name => by
      have index := index_length_le name
      have tag : (writeNat 1).length = 1 := rfl
      simp only [TypeRef.write, TypeRef.toll, List.length_append]
      omega
  | .tuple elements => by
      have length := length_writeNat_le elements.length
      have items := TypeRef.writeAll_length_le_tollOf elements
      have tag : (writeNat 2).length = 1 := rfl
      simp only [TypeRef.write, TypeRef.toll, List.length_append]
      omega
  | .array element length => by
      have inner := TypeRef.write_length_le_toll element
      have count := length_writeNat_le length.toNat
      have tag : (writeNat 3).length = 1 := rfl
      simp only [TypeRef.write, TypeRef.toll, List.length_append]
      omega

theorem TypeRef.writeAll_length_le_tollOf : (types : List TypeRef) →
    (TypeRef.writeAll types).length ≤ TypeRef.tollOf types
  | [] => Nat.le_refl 0
  | first :: rest => by
      have here := TypeRef.write_length_le_toll first
      have later := TypeRef.writeAll_length_le_tollOf rest
      simp only [TypeRef.writeAll, TypeRef.tollOf, List.length_append]
      omega

end

/-- A type that may be claimed has a length that can be spelled. -/
theorem TypeRef.write_length_lt_bound {type : TypeRef}
    (within : Charge.peak 0 type.charges ≤ claimLimit) :
    type.write.length < Word.word64.bound := by
  have bytes := type.write_length_le_toll
  have settled := Charge.settle_le_peak 0 type.charges
  rw [type.settle_charges, Nat.zero_add] at settled
  simp only [claimLimit, Word.bound] at within ⊢
  omega

end RecordDerive.Metadata
