import RecordDerive.Proofs.Wire.Consumption

/-!
# Watching the count of claimed bytes

What a reader has claimed when it stops at a fault cannot be told from its answer.  A watched
reader comes with the movements of the count that it makes on its way, as far as it gets, so
that the count is known wherever one of them is made.  Watched readers are put together like
readers, and answer as these do.
-/

namespace RecordDerive.Wire

variable {α β : Type}

/-! ## Readers that move nothing -/

namespace Reader

theorem feed_of_claim {count : Nat} {feed after : Feed} {answer : Unit}
    (read : claim count feed = .ok (answer, after)) :
    after = ⟨feed.ahead, feed.claimed + count⟩ := by
  rw [claim] at read
  split at read
  next below =>
    cases read
    rfl
  next above => cases read

/-- A reader that leaves the count as it is. -/
structure Quiet (reader : Reader α) : Prop where
  kept : ∀ {feed after : Feed} {value : α}, reader feed = .ok (value, after) →
    after.claimed = feed.claimed

namespace Quiet

theorem pure (value : α) : Quiet (Pure.pure value) where
  kept := by
    intro feed after found read
    cases read
    rfl

theorem throw (fault : Fault) : Quiet (MonadExcept.throw fault : Reader α) where
  kept := by
    intro feed after found read
    cases read

theorem bind {reader : Reader α} {next : α → Reader β} (first : Quiet reader)
    (second : ∀ value, Quiet (next value)) : Quiet (reader >>= next) where
  kept := by
    intro feed after result read
    obtain ⟨value, between, firstRead, secondRead⟩ := bind_eq_ok read
    exact ((second value).kept secondRead).trans (first.kept firstRead)

theorem get : Quiet (MonadState.get : Reader Feed) where
  kept := by
    intro feed after found read
    cases read
    rfl

theorem byte : Quiet Reader.byte where
  kept := fun read => (byte_eq_ok read).settled

theorem take (count : Nat) : Quiet (Reader.take count) where
  kept := fun read => (take_eq_ok read).2.settled

end Quiet

/-- A reader that claims some bytes at its front, and moves nothing behind that. -/
structure Opens (count : Nat) (reader : Reader α) : Prop where
  exists_rest : ∃ rest : Reader α, reader = (claim count >>= fun _ => rest) ∧ Quiet rest

namespace Opens

theorem bind {count : Nat} {reader : Reader α} {next : α → Reader β} (first : Opens count reader)
    (second : ∀ value, Quiet (next value)) : Opens count (reader >>= next) where
  exists_rest := by
    obtain ⟨rest, rfl, quiet⟩ := first.exists_rest
    exact ⟨rest >>= next, bind_assoc _ _ _, quiet.bind second⟩

theorem nat (word : Word) : Opens word.size (Reader.nat word) where
  exists_rest := by
    refine ⟨_, rfl, Quiet.get.bind fun _ => Quiet.byte.bind fun lead => ?_⟩
    split
    next => exact .pure _
    next =>
      dsimp only
      split
      next => exact (Quiet.take _).bind fun _ => .pure _
      next => exact .throw _

theorem bool : Opens 1 Reader.bool where
  exists_rest := by
    refine ⟨_, rfl, Quiet.byte.bind fun found => ?_⟩
    split
    next => exact .pure _
    next =>
      split
      next => exact .pure _
      next => exact .throw _

theorem tag (type : Tagged) : Opens 4 (Reader.tag type) := by
  refine (nat .word32).bind fun found => ?_
  split
  next => exact .pure _
  next => exact .throw _

end Opens

end Reader

open Reader (Quiet Opens bind_eq_ok feed_of_claim)

/-! ## Watched readers -/

/-- A reader with the movements it makes, up to its end or the fault it stops at.  Where it
gives a value, these lead to the count that it leaves. -/
structure Watched (α : Type) where
  reader : Reader α
  moves : Feed → List Charge
  settled : ∀ {feed after : Feed} {value : α}, reader feed = .ok (value, after) →
    after.claimed = Charge.settle feed.claimed (moves feed)

namespace Watched

/-- A reader that moves nothing. -/
def still (reader : Reader α) (quiet : Quiet reader) : Watched α where
  reader := reader
  moves _ := []
  settled := quiet.kept

/-- The movements behind a reading, if it came to a value. -/
def movesBehind (next : α → Watched β) : Except Fault (α × Feed) → List Charge
  | .ok (value, between) => (next value).moves between
  | .error _ => []

instance : Monad Watched where
  pure value := still (pure value) (.pure value)
  bind first next :=
    { reader := first.reader >>= fun value => (next value).reader
      moves := fun feed => first.moves feed ++ movesBehind next (first.reader feed)
      settled := by
        intro feed after result read
        obtain ⟨value, between, firstRead, secondRead⟩ := bind_eq_ok read
        rw [firstRead, movesBehind, Charge.settle_append, ← first.settled firstRead]
        exact (next value).settled secondRead }

/-- A claim is a movement if it keeps to the limit. -/
def claim (count : Nat) : Watched Unit where
  reader := Reader.claim count
  moves feed := if feed.claimed + count ≤ claimLimit then [.claim count] else []
  settled := by
    intro feed after answer read
    have settled := (Reader.claim_eq_ok read).settled
    rw [Reader.claim] at read
    split at read
    next below => rwa [if_pos below]
    next above => cases read

/-- A refund is a movement. -/
def refund (count : Nat) : Watched Unit where
  reader := Reader.refund count
  moves _ := [.refund count]
  settled read := (Reader.refund_eq_ok read).settled

/-- A reader whose only movement is a claim at its front. -/
def opening (count : Nat) (reader : Reader α) (opens : Opens count reader) : Watched α where
  reader := reader
  moves := (claim count).moves
  settled := by
    intro feed after value read
    obtain ⟨rest, rfl, quiet⟩ := opens.exists_rest
    obtain ⟨_, claimed, claimRead, restRead⟩ := bind_eq_ok read
    rw [quiet.kept restRead]
    exact (claim count).settled claimRead

/-- As many items as asked for. -/
def items (size : Nat) (item : Watched α) : Nat → Watched (List α)
  | 0 => return []
  | count + 1 => do
    refund size
    let first ← item
    let rest ← items size item count
    return first :: rest

/-- A list whose items take `size` bytes each in memory. -/
def list (size : Nat) (item : Watched α) : Watched (List α) := do
  let count ← opening 8 (Reader.nat .word64) (.nat .word64)
  claim (count * size)
  items size item count

section Answers

variable (first : Watched α) (next : α → Watched β)

@[simp] theorem reader_pure (value : α) : (pure value : Watched α).reader = pure value := rfl

@[simp] theorem reader_bind :
    (first >>= next).reader = first.reader >>= fun value => (next value).reader := rfl

@[simp] theorem reader_still (reader : Reader α) (quiet : Quiet reader) :
    (still reader quiet).reader = reader := rfl

@[simp] theorem reader_opening (count : Nat) (reader : Reader α) (opens : Opens count reader) :
    (opening count reader opens).reader = reader := rfl

@[simp] theorem reader_items (size count : Nat) (item : Watched α) :
    (items size item count).reader = Reader.items size item.reader count := by
  induction count with
  | zero => rfl
  | succ count ih =>
      rw [items, Reader.items, ← ih]
      rfl

@[simp] theorem reader_list (size : Nat) (item : Watched α) :
    (list size item).reader = Reader.list size item.reader := by
  rw [list, Reader.list, reader_bind]
  simp only [reader_bind, reader_items]
  rfl

end Answers

end Watched

/-! ## Sound movements -/

namespace Charge

/-- A claim is sound if it keeps to the limit, and a refund if it gives back the share of an
item and no more than is claimed. -/
def SoundAt (size claimed : Nat) : Charge → Prop
  | .claim count => claimed + count ≤ claimLimit
  | .refund count => count = size ∧ size ≤ claimed

/-- Each of some movements is sound at the count that those before it lead to. -/
def Sound (size claimed : Nat) (charges : List Charge) : Prop :=
  ∀ before charge after, charges = before ++ charge :: after →
    charge.SoundAt size (settle claimed before)

variable {size claimed : Nat}

theorem Sound.nil : Sound size claimed [] := by
  intro before charge after split
  simp at split

theorem Sound.singleton {charge : Charge} (sound : charge.SoundAt size claimed) :
    Sound size claimed [charge] := by
  intro before other after split
  cases before with
  | nil =>
      cases split
      exact sound
  | cons first before => simp at split

theorem Sound.append {first second : List Charge} (earlier : Sound size claimed first)
    (later : Sound size (settle claimed first) second) : Sound size claimed (first ++ second) := by
  intro before charge after split
  rcases List.append_eq_append_iff.mp split with ⟨between, rfl, same⟩ | ⟨between, rfl, same⟩
  · rw [settle_append]
    exact later between charge after same
  · cases between with
    | nil =>
        have behind := later [] charge after same.symm
        simpa using behind
    | cons other between =>
        cases same
        exact earlier before charge between rfl

end Charge

/-- A watched reader that may give back `due` bytes claimed beforehand makes sound movements,
and gives back no more than these. -/
structure Watched.Solvent (size due : Nat) (watched : Watched α) : Prop where
  sound : ∀ feed, due ≤ feed.claimed → Charge.Sound size feed.claimed (watched.moves feed)
  kept : ∀ {feed after : Feed} {value : α}, due ≤ feed.claimed →
    watched.reader feed = .ok (value, after) → feed.claimed ≤ after.claimed + due

namespace Watched.Solvent

variable {size due due' : Nat} {watched : Watched α} {next : α → Watched β}

theorem still {reader : Reader α} (quiet : Quiet reader) :
    Solvent size 0 (.still reader quiet) where
  sound _ _ := .nil
  kept _ read := Nat.le_of_eq (quiet.kept read).symm

theorem pure (value : α) : Solvent size 0 (Pure.pure value : Watched α) := still (.pure value)

theorem bind (first : Solvent size due watched) (second : ∀ value, Solvent size due' (next value)) :
    Solvent size (due + due') (watched >>= next) where
  sound := by
    intro feed enough
    refine (first.sound feed (by omega)).append ?_
    cases read : watched.reader feed with
    | error fault => exact .nil
    | ok step =>
        obtain ⟨value, between⟩ := step
        have kept := first.kept (by omega) read
        rw [← watched.settled read]
        exact (second value).sound between (by omega)
  kept := by
    intro feed after result enough read
    obtain ⟨value, between, firstRead, secondRead⟩ := bind_eq_ok read
    have earlier := first.kept (by omega) firstRead
    have later := (second value).kept (by omega) secondRead
    omega

/-- What gives back nothing of what was claimed before may be followed by more of that kind. -/
theorem seq (first : Solvent size 0 watched) (second : ∀ value, Solvent size 0 (next value)) :
    Solvent size 0 (watched >>= next) := first.bind second

theorem sound_claim {count : Nat} (feed : Feed) :
    Charge.Sound size feed.claimed ((claim count).moves feed) := by
  rw [claim]
  dsimp only
  split
  next below => exact .singleton below
  next above => exact .nil

/-- Bytes that are claimed may be given back by what follows. -/
theorem bind_claim {count : Nat} {watched : Watched α} (solvent : Solvent size count watched) :
    Solvent size 0 (claim count >>= fun _ => watched) where
  sound := by
    intro feed enough
    refine (sound_claim feed).append ?_
    cases read : (claim count).reader feed with
    | error fault => exact .nil
    | ok step =>
        obtain ⟨answer, claimed⟩ := step
        have grown := congrArg Feed.claimed (feed_of_claim read)
        dsimp only at grown
        rw [← (claim count).settled read]
        exact solvent.sound claimed (by omega)
  kept := by
    intro feed after result enough read
    obtain ⟨answer, claimed, claimRead, rest⟩ := bind_eq_ok read
    have grown := congrArg Feed.claimed (feed_of_claim claimRead)
    dsimp only at grown
    have kept := solvent.kept (by omega) rest
    omega

theorem opening {count : Nat} {reader : Reader α} (opens : Opens count reader) :
    Solvent size 0 (.opening count reader opens) where
  sound feed _ := sound_claim feed
  kept := by
    intro feed after value enough read
    obtain ⟨rest, rfl, quiet⟩ := opens.exists_rest
    obtain ⟨answer, claimed, claimRead, restRead⟩ := bind_eq_ok read
    rw [quiet.kept restRead, feed_of_claim claimRead]
    exact Nat.le_add_right _ _

theorem refund : Solvent size size (refund size) where
  sound feed enough := .singleton ⟨rfl, enough⟩
  kept := by
    intro feed after answer enough read
    cases read
    show feed.claimed ≤ feed.claimed - size + size
    omega

theorem items (solvent : Solvent size 0 watched) (count : Nat) :
    Solvent size (count * size) (items size watched count) := by
  induction count with
  | zero =>
      rw [Nat.zero_mul]
      exact pure []
  | succ count ih =>
      have all := refund.bind fun _ => solvent.bind fun first => ih.bind fun rest =>
        pure (first :: rest)
      have sum : size + (0 + (count * size + 0)) = (count + 1) * size := by
        rw [Nat.succ_mul]
        omega
      rwa [sum] at all

/-- A list gives back only what it claimed itself. -/
theorem list (solvent : Solvent size 0 watched) : Solvent size 0 (list size watched) :=
  (opening (.nat .word64)).seq fun count => (solvent.items count).bind_claim

end Watched.Solvent

end RecordDerive.Wire
