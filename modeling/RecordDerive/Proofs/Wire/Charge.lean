import RecordDerive.Wire.Reader

/-!
# What a reading claims

Reading moves the count of claimed bytes: claims raise it, and refunds lower it
again before an item of a list makes claims of its own.  A charge is one such
movement.  Charges follow from the value that is read and not from the spelling
of its integers, so whether a reading stays under the limit is a property of the
value: the highest count on the way.
-/

namespace RecordDerive.Wire

/-- One movement of the count of claimed bytes. -/
inductive Charge
  | claim (count : Nat)
  | refund (count : Nat)
  deriving Repr, DecidableEq

namespace Charge

/-- The count after a movement. -/
def apply (claimed : Nat) : Charge → Nat
  | .claim count => claimed + count
  | .refund count => claimed - count

/-- The count after some movements. -/
def settle (claimed : Nat) (charges : List Charge) : Nat :=
  charges.foldl apply claimed

/-- The highest count on the way through some movements. -/
def peak : Nat → List Charge → Nat
  | claimed, [] => claimed
  | claimed, charge :: rest => max claimed (peak (apply claimed charge) rest)

/-- The movements of a list: its length, the claim for its content, and for each
item the refund of its share before its own movements. -/
def ofList {α : Type} (size : Nat) (charges : α → List Charge) (items : List α) : List Charge :=
  .claim 8 :: .claim (items.length * size) ::
    items.flatMap fun item => .refund size :: charges item

/-- The movements of a byte string. -/
def ofBytes (bytes : List UInt8) : List Charge :=
  [.claim 8, .claim bytes.length]

/-- The movements of a text. -/
def ofText (text : String) : List Charge :=
  ofBytes (Utf8.encode text.toList)

@[simp] theorem settle_nil (claimed : Nat) : settle claimed [] = claimed := rfl

@[simp] theorem settle_cons (claimed : Nat) (charge : Charge) (rest : List Charge) :
    settle claimed (charge :: rest) = settle (apply claimed charge) rest := rfl

@[simp] theorem settle_append (claimed : Nat) (first second : List Charge) :
    settle claimed (first ++ second) = settle (settle claimed first) second := by
  simp only [settle, List.foldl_append]

@[simp] theorem peak_nil (claimed : Nat) : peak claimed [] = claimed := rfl

/-- Every way begins at the count it starts from. -/
theorem le_peak (claimed : Nat) (charges : List Charge) : claimed ≤ peak claimed charges := by
  cases charges with
  | nil => exact Nat.le_refl claimed
  | cons charge rest => exact Nat.le_max_left claimed _

/-- The way through two series of movements passes the highest counts of both. -/
theorem peak_append (claimed : Nat) (first second : List Charge) :
    peak claimed (first ++ second) =
      max (peak claimed first) (peak (settle claimed first) second) := by
  induction first generalizing claimed with
  | nil =>
      have start := le_peak claimed second
      simp only [List.nil_append, peak_nil, settle_nil]
      omega
  | cons charge rest ih =>
      simp only [List.cons_append, peak, settle_cons, ih]
      omega

/-- Every way ends no higher than its highest count. -/
theorem settle_le_peak (claimed : Nat) (charges : List Charge) :
    settle claimed charges ≤ peak claimed charges := by
  have appended := peak_append claimed charges []
  simp only [List.append_nil, peak_nil] at appended
  omega

end Charge

end RecordDerive.Wire
