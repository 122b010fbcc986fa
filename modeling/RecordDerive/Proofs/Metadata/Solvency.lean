import Mathlib.Control.Monad.Basic
import RecordDerive.Proofs.Metadata.Balance
import RecordDerive.Proofs.Metadata.Reencoding
import RecordDerive.Proofs.Wire.Watch

/-!
# Reading types gives back nothing that is not claimed

A list of types claims the space of all its items at once and gives back that of each item
before the item is read.  Lists inside the items do the same meanwhile, and any of these
readings may stop at a fault.  Still there always is enough claimed for what is given back, and
what a list leaves claimed in the end are the tolls of its items.
-/

namespace RecordDerive.Metadata

open Wire
open Wire.Reader (bind_eq_ok Opens Quiet)

/-! ## The movements of types -/

theorem opens_word32 : Opens 4 readWord32 := (Opens.nat .word32).bind fun _ => .pure _

theorem opens_word64 : Opens 8 readWord64 := (Opens.nat .word64).bind fun _ => .pure _

namespace TypeRef

/-- A type that nests at most the given number of levels, read with an eye on the count of
claimed bytes. -/
def watchedWithin : Nat → Watched TypeRef
  | 0 => .still (throw .nestedTooDeeply) (.throw _)
  | levels + 1 => do
    match ← Watched.opening 4 (Reader.tag taggedTypeRef) (.tag _) with
    | 0 =>
      let name ← Watched.opening 4 readWord32 opens_word32
      let arguments ← Watched.list typeRefSize (watchedWithin levels)
      let nullable ← Watched.opening 1 Reader.bool .bool
      return .named name arguments nullable
    | 1 => return .parameter (← Watched.opening 4 readWord32 opens_word32)
    | 2 => return .tuple (← Watched.list typeRefSize (watchedWithin levels))
    | _ =>
      let element ← watchedWithin levels
      let length ← Watched.opening 8 readWord64 opens_word64
      return .array element length

/-- Being watched changes nothing for a reader of types. -/
theorem reader_watchedWithin (levels : Nat) :
    (watchedWithin levels).reader = readWithin levels := by
  induction levels with
  | zero => rfl
  | succ levels ih =>
      rw [watchedWithin, readWithin, Watched.reader_bind, Watched.reader_opening]
      congr 1
      funext tag
      match tag with
      | 0 => simp [ih]
      | 1 => simp
      | 2 => simp [ih]
      | tag + 3 => simp [ih]

theorem solvent_watchedWithin (levels : Nat) :
    Watched.Solvent typeRefSize 0 (watchedWithin levels) := by
  induction levels with
  | zero => exact .still _
  | succ levels ih =>
      have word32 : Watched.Solvent typeRefSize 0 (.opening 4 readWord32 opens_word32) := .opening _
      have word64 : Watched.Solvent typeRefSize 0 (.opening 8 readWord64 opens_word64) := .opening _
      refine (Watched.Solvent.opening (.tag _)).seq fun tag => ?_
      match tag with
      | 0 =>
          exact word32.seq fun _ => ih.list.seq fun _ =>
            (Watched.Solvent.opening .bool).seq fun _ => .pure _
      | 1 => exact word32.seq fun _ => .pure _
      | 2 => exact ih.list.seq fun _ => .pure _
      | tag + 3 => exact ih.seq fun _ => word64.seq fun _ => .pure _

/-! ## Lists of types -/

/-- A list of types leaves claimed its length and the tolls of its items, and uses up some bytes
for each of them behind those for its length. -/
theorem account_list {levels : Nat} {feed after : Feed} {types : List TypeRef}
    (read : Reader.list typeRefSize (readWithin levels) feed = .ok (types, after)) :
    after.claimed = feed.claimed + (8 + tollOf types) ∧
      ∃ length content, feed.ahead = length ++ (content ++ after.ahead) ∧ length ≠ [] ∧
        types.length ≤ content.length := by
  obtain ⟨count, counted, countRead, read⟩ := bind_eq_ok read
  obtain ⟨answer, claimed, claimRead, read⟩ := bind_eq_ok read
  obtain ⟨-, countConsumed⟩ := (Accounts.nat .word64).account countRead
  obtain ⟨all, -, itemsConsumed⟩ := (accounts levels).items typeRefSize read
  constructor
  · have start : claimed.claimed = feed.claimed + 8 + types.length * typeRefSize := by
      rw [Reader.feed_of_claim claimRead, countConsumed.settled, all]
      rfl
    rw [itemsConsumed.settled, start, ← chargesOf_eq_flatMap, settle_chargesOf, Nat.add_assoc]
  · obtain ⟨length, behind, some⟩ := countConsumed.used
    obtain ⟨content, behind', enough⟩ := itemsConsumed.used
    have unmoved : claimed.ahead = counted.ahead := by rw [Reader.feed_of_claim claimRead]
    have items := length_le_flatMap (fun type (_ : type ∈ types) => type.write_length_pos)
    refine ⟨length, content, ?_, ?_, by omega⟩
    · rw [behind, ← unmoved, behind']
    · rintro rfl
      have digits := writeNat_length_pos count
      rw [List.length_nil] at some
      omega

/-- However far the reading of a list of types gets, each claim that passes keeps to the limit, and
each refund is that of one type and finds it claimed.  Where it gives the list, the count has
grown by the tolls of its items and its length, however they are spelled, and there were more
bytes ahead than items. -/
theorem list_solvent (levels : Nat) (feed : Feed) :
    let reader := Reader.list typeRefSize (readWithin levels)
    let watched := Watched.list typeRefSize (watchedWithin levels)
    watched.reader = reader ∧
      Charge.Sound typeRefSize feed.claimed (watched.moves feed) ∧
      ∀ types after, reader feed = .ok (types, after) →
        after.claimed = feed.claimed + (8 + tollOf types) ∧
        ∃ length content, feed.ahead = length ++ (content ++ after.ahead) ∧ length ≠ [] ∧
          types.length ≤ content.length := by
  intro reader watched
  have same : watched.reader = reader := by
    rw [Watched.reader_list, reader_watchedWithin]
  have sound := (solvent_watchedWithin levels).list.sound feed (Nat.zero_le _)
  exact ⟨same, sound, fun types after read => account_list read⟩

/-- A pair of types, the first of which has an argument, read behind a hundred claimed bytes: once
whole, with all lengths and one index spelled longer than they need to be, and once cut off
inside the argument. -/
theorem list_solvent_pair :
    let bytes : List UInt8 :=
      [253, 2, 0, 0, 0, 0, 0, 0, 0, 0, 252, 3, 0, 0, 0, 251, 1, 0, 1, 5, 1, 3, 2, 0, 9]
    let types : List TypeRef := [.named 3 [.parameter 5] true, .array (.tuple []) 9]
    let reader := Reader.list typeRefSize (readWithin 2)
    let watched := Watched.list typeRefSize (watchedWithin 2)
    reader ⟨bytes, 100⟩ = .ok (types, ⟨[], 157⟩) ∧
      157 = 100 + (8 + tollOf types) ∧
      reader ⟨bytes.take 19, 100⟩ = .error (.endOfInput 1) ∧
      watched.moves ⟨bytes.take 19, 100⟩ =
        [.claim 8, .claim 64, .refund 32, .claim 4, .claim 4, .claim 8, .claim 32, .refund 32,
          .claim 4, .claim 4] ∧
      Charge.Sound typeRefSize 100 (watched.moves ⟨bytes.take 19, 100⟩) := by
  intro bytes types reader watched
  have whole : reader ⟨bytes, 100⟩ = .ok (types, ⟨[], 157⟩) := by decide +kernel
  have cut : reader ⟨bytes.take 19, 100⟩ = .error (.endOfInput 1) := by decide +kernel
  have moves : watched.moves ⟨bytes.take 19, 100⟩ =
      [.claim 8, .claim 64, .refund 32, .claim 4, .claim 4, .claim 8, .claim 32, .refund 32,
        .claim 4, .claim 4] := by decide
  obtain ⟨settled, -⟩ := (list_solvent 2 ⟨bytes, 100⟩).2.2 types ⟨[], 157⟩ whole
  exact ⟨whole, settled, cut, moves, (list_solvent 2 ⟨bytes.take 19, 100⟩).2.1⟩

end TypeRef

end RecordDerive.Metadata
