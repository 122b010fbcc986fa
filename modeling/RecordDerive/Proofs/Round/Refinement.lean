import RecordDerive.Proofs.Round.Accumulator

/-!
# Accumulators refine ledgers

Calls to an accumulator and to a ledger are put into one form, with one form of
answers, so that runs of the two can be compared.  An accumulator represents a
ledger if its index is right and the two agree on declarations and phase.  Every
call preserves this and is answered alike.
-/

namespace RecordDerive

variable {H : Type}

namespace Ledger

/-- What an accumulator or a ledger can be asked. -/
inductive Call (H : Type)
  | record (declaration : Declaration H)
  | forget (handle : H)
  | get (handle : H)
  | snapshot
  | beginFinalize
  | finish

/-- What a call is answered. -/
inductive Answer (H : Type)
  | refused (violation : Violation)
  | recorded (recorded : Recorded)
  | forgotten (declaration : Option (Declaration H))
  | found (declaration : Option (Declaration H))
  | listed (declarations : List (Declaration H))
  | finished

/-- A result as an answer and the state behind it.  A refused call leaves the
state from before. -/
def answered {α S : Type} (answer : α → Answer H) (before : S) :
    Except Violation (α × S) → Answer H × S
  | .ok (value, after) => (answer value, after)
  | .error violation => (.refused violation, before)

/-- What can be seen after a call: its answer, and how many declarations there are
and which. -/
structure Observation (H : Type) where
  answer : Answer H
  size : Nat
  contents : List (Declaration H)

/-- Something that answers calls. -/
structure Machine (H S : Type) where
  perform : S → Call H → Answer H × S
  size : S → Nat
  contents : S → List (Declaration H)

/-- What is seen after a call. -/
def Machine.observe {S : Type} (machine : Machine H S) (state : S) (call : Call H) :
    Observation H :=
  let (answer, after) := machine.perform state call
  ⟨answer, machine.size after, machine.contents after⟩

/-- What is seen along some calls, and the state that they lead to. -/
def Machine.run {S : Type} (machine : Machine H S) :
    List (Call H) → S → List (Observation H) × S
  | [], state => ([], state)
  | call :: calls, state =>
      let rest := machine.run calls (machine.perform state call).2
      (machine.observe state call :: rest.1, rest.2)

variable [DecidableEq H]

/-- Answer a call. -/
def perform (ledger : Ledger H) : Call H → Answer H × Ledger H
  | .record declaration => answered .recorded ledger (ledger.record declaration)
  | .forget handle => answered .forgotten ledger (ledger.forget handle)
  | .get handle => (.found (find? handle ledger.declarations), ledger)
  | .snapshot => (.listed ledger.declarations, ledger)
  | .beginFinalize => answered .listed ledger ledger.beginFinalize
  | .finish => answered (fun _ => .finished) ledger ledger.finish

/-- Ledgers answer calls. -/
def machine : Machine H (Ledger H) where
  perform := perform
  size ledger := ledger.declarations.length
  contents ledger := ledger.declarations

end Ledger

open Ledger (Call Answer Machine answered)

namespace Accumulator

variable [DecidableEq H] [Hashable H]

/-- Answer a call. -/
def perform (accumulator : Accumulator H) : Call H → Answer H × Accumulator H
  | .record declaration => answered .recorded accumulator (accumulator.record declaration)
  | .forget handle => answered .forgotten accumulator (accumulator.forget handle)
  | .get handle => (.found (accumulator.get handle), accumulator)
  | .snapshot => (.listed accumulator.snapshot, accumulator)
  | .beginFinalize => answered .listed accumulator accumulator.beginFinalize
  | .finish => answered (fun _ => .finished) accumulator accumulator.finish

/-- Accumulators answer calls. -/
def machine : Machine H (Accumulator H) where
  perform := perform
  size accumulator := accumulator.entries.length
  contents accumulator := accumulator.snapshot

/-- An accumulator with a right index that agrees with a ledger on everything
else. -/
structure Represents (accumulator : Accumulator H) (ledger : Ledger H) : Prop where
  indexed : accumulator.Indexed
  entries : accumulator.entries = ledger.declarations
  phase : accumulator.phase = ledger.phase

variable {accumulator : Accumulator H} {ledger : Ledger H}

theorem represents_empty : (Accumulator.empty : Accumulator H).Represents Ledger.empty :=
  ⟨.empty, rfl, rfl⟩

theorem Represents.collects (related : accumulator.Represents ledger)
    (collecting : accumulator.phase = .collecting) :
    accumulator.Collects ledger.declarations :=
  ⟨related.indexed, related.entries, collecting⟩

theorem Collects.represents (collects : accumulator.Collects ledger.declarations)
    (collecting : ledger.phase = .collecting) : accumulator.Represents ledger :=
  ⟨collects.indexed, collects.entries, collects.phase.trans collecting.symm⟩

/-- Two results that fail alike, or succeed with one value and related states. -/
inductive Alike {α : Type} : Except Violation (α × Accumulator H) →
    Except Violation (α × Ledger H) → Prop
  | ok (value : α) {accumulator : Accumulator H} {ledger : Ledger H}
      (related : accumulator.Represents ledger) :
      Alike (.ok (value, accumulator)) (.ok (value, ledger))
  | error (violation : Violation) : Alike (.error violation) (.error violation)

theorem Alike.answered {α : Type} {left : Except Violation (α × Accumulator H)}
    {right : Except Violation (α × Ledger H)} (alike : Alike left right)
    (related : accumulator.Represents ledger) (answer : α → Answer H) :
    (answered answer accumulator left).1 = (answered answer ledger right).1 ∧
      (answered answer accumulator left).2.Represents (answered answer ledger right).2 := by
  cases alike with
  | ok value after => exact ⟨rfl, after⟩
  | error violation => exact ⟨rfl, related⟩

theorem Represents.record (related : accumulator.Represents ledger)
    (declaration : Declaration H) :
    Alike (accumulator.record declaration) (ledger.record declaration) := by
  rcases Decidable.em (accumulator.phase = .collecting) with collecting | closed
  · obtain ⟨after, result, collects⟩ := (related.collects collecting).record declaration
    have collecting' := related.phase.symm.trans collecting
    rw [result, Ledger.record, if_pos collecting']
    exact .ok _ (collects.represents collecting')
  · rw [Accumulator.record, if_pos closed, Ledger.record, ← related.phase, if_neg closed]
    exact .error _

theorem Represents.forget (related : accumulator.Represents ledger) (handle : H) :
    Alike (accumulator.forget handle) (ledger.forget handle) := by
  rcases Decidable.em (accumulator.phase = .collecting) with collecting | closed
  · obtain ⟨after, result, collects⟩ := (related.collects collecting).forget handle
    have collecting' := related.phase.symm.trans collecting
    rw [result, Ledger.forget, if_pos collecting']
    exact .ok _ (collects.represents collecting')
  · rw [Accumulator.forget, if_pos closed, Ledger.forget, ← related.phase, if_neg closed]
    exact .error _

theorem Represents.beginFinalize (related : accumulator.Represents ledger) :
    Alike accumulator.beginFinalize ledger.beginFinalize := by
  rw [Accumulator.beginFinalize, Ledger.beginFinalize, ← related.phase, ite_not]
  split
  next collecting =>
    have listed : accumulator.snapshot = ledger.declarations := related.entries
    rw [listed]
    exact .ok _ ⟨related.indexed.withPhase _, related.entries, rfl⟩
  next closed => exact .error _

theorem Represents.finish (related : accumulator.Represents ledger) :
    Alike accumulator.finish ledger.finish := by
  rw [Accumulator.finish, Ledger.finish, ← related.phase, ite_not]
  split
  next finalizing => exact .ok _ ⟨related.indexed.withPhase _, related.entries, rfl⟩
  next other => exact .error _

/-- A call is answered as by the ledger, and leads to an accumulator that
represents the ledger it leads to. -/
theorem Represents.perform (related : accumulator.Represents ledger) (call : Call H) :
    (accumulator.perform call).1 = (ledger.perform call).1 ∧
      (accumulator.perform call).2.Represents (ledger.perform call).2 := by
  cases call with
  | record declaration => exact (related.record declaration).answered related .recorded
  | forget handle => exact (related.forget handle).answered related .forgotten
  | get handle =>
      refine ⟨congrArg Answer.found ?_, related⟩
      rw [related.indexed.get_eq, related.entries]
  | snapshot => exact ⟨congrArg Answer.listed related.entries, related⟩
  | beginFinalize => exact related.beginFinalize.answered related .listed
  | finish => exact related.finish.answered related fun _ => .finished

theorem Represents.observe (related : accumulator.Represents ledger) (call : Call H) :
    machine.observe accumulator call = Ledger.machine.observe ledger call := by
  obtain ⟨sameAnswer, after⟩ := related.perform call
  show Ledger.Observation.mk (accumulator.perform call).1
      (accumulator.perform call).2.entries.length (accumulator.perform call).2.entries =
    Ledger.Observation.mk (ledger.perform call).1
      (ledger.perform call).2.declarations.length (ledger.perform call).2.declarations
  rw [sameAnswer, after.entries]

/-- The same is seen along all calls. -/
theorem Represents.run (related : accumulator.Represents ledger) (calls : List (Call H)) :
    (machine.run calls accumulator).1 = (Ledger.machine.run calls ledger).1 ∧
      (machine.run calls accumulator).2.Represents (Ledger.machine.run calls ledger).2 := by
  induction calls generalizing accumulator ledger with
  | nil => exact ⟨rfl, related⟩
  | cons call calls ih =>
      -- One call leaves related states behind, from which the remaining calls go on.
      obtain ⟨sameLater, reached⟩ := ih (related.perform call).2
      refine ⟨?_, reached⟩
      exact congr (congrArg List.cons (related.observe call)) sameLater

/-! ## Closed accumulators -/

/-- Without collection, no call changes the entries or takes collection up again. -/
theorem perform_of_closed (closed : accumulator.phase ≠ .collecting) (call : Call H) :
    (accumulator.perform call).2.entries = accumulator.entries ∧
      (accumulator.perform call).2.phase ≠ .collecting := by
  cases call with
  | record declaration =>
      rw [perform, Accumulator.record, if_pos closed]
      exact ⟨rfl, closed⟩
  | forget handle =>
      rw [perform, Accumulator.forget, if_pos closed]
      exact ⟨rfl, closed⟩
  | get handle => exact ⟨rfl, closed⟩
  | snapshot => exact ⟨rfl, closed⟩
  | beginFinalize =>
      rw [perform, Accumulator.beginFinalize, if_pos closed]
      exact ⟨rfl, closed⟩
  | finish =>
      rw [perform, Accumulator.finish]
      split
      next other => exact ⟨rfl, closed⟩
      next finalizing =>
        have ended : Phase.done ≠ .collecting := by decide
        exact ⟨rfl, ended⟩

theorem run_of_closed (closed : accumulator.phase ≠ .collecting) (calls : List (Call H)) :
    (machine.run calls accumulator).2.entries = accumulator.entries := by
  induction calls generalizing accumulator with
  | nil => rfl
  | cons call calls ih =>
      obtain ⟨entries, closed⟩ := perform_of_closed closed call
      rw [Machine.run, ← entries]
      exact ih closed

/-- What a successful end of collection lists is what is there, and nothing is
collected any more. -/
theorem perform_beginFinalize {listing : List (Declaration H)}
    (listed : (accumulator.perform .beginFinalize).1 = .listed listing) :
    listing = accumulator.entries ∧
      (accumulator.perform .beginFinalize).2 =
        { accumulator with phase := .finalizing } := by
  rw [perform, Accumulator.beginFinalize] at listed ⊢
  split at listed
  next closed => cases listed
  next collecting =>
    rw [if_neg collecting]
    injection listed with same
    exact ⟨same.symm, rfl⟩

theorem perform_of_refused {call : Call H} {violation : Violation}
    (refused : (accumulator.perform call).1 = .refused violation) :
    (accumulator.perform call).2 = accumulator := by
  have kept {α : Type} {answer : α → Answer H}
      {result : Except Violation (α × Accumulator H)}
      (distinguished : ∀ value, answer value ≠ .refused violation)
      (refused : (answered answer accumulator result).1 = .refused violation) :
      (answered answer accumulator result).2 = accumulator := by
    cases result with
    | ok success => exact absurd refused (distinguished success.1)
    | error violation => rfl
  cases call with
  | record declaration => exact kept nofun refused
  | forget handle => exact kept nofun refused
  | get handle => rfl
  | snapshot => rfl
  | beginFinalize => exact kept nofun refused
  | finish => exact kept nofun refused

/-- A fresh accumulator is answered like a fresh ledger along all calls, and what
can be seen of the two is the same.  At every moment on the way the index holds
exactly the handles of the entries, each with its position, so that lookups stay in
range; a refused call changes nothing; and what ended collection is what every later
snapshot lists. -/
theorem refines_ledger (calls : List (Call H)) :
    (machine.run calls .empty).1 = (Ledger.machine.run calls .empty).1 ∧
    let reached := (machine.run calls .empty).2
    reached.Represents (Ledger.machine.run calls .empty).2 ∧
    (∀ (handle : H) (position : Nat), reached.positions[handle]? = some position →
      position < reached.entries.length) ∧
    (∀ call violation, (reached.perform call).1 = .refused violation →
      (reached.perform call).2 = reached) ∧
    (∀ listing, (reached.perform .beginFinalize).1 = .listed listing →
      ∀ later,
        let closed := (machine.run later (reached.perform .beginFinalize).2).2
        closed.snapshot = listing ∧
          (closed.perform .snapshot).1 = .listed listing) := by
  obtain ⟨sameSeen, related⟩ := represents_empty.run calls
  refine ⟨sameSeen, related, ?_, fun _ _ => perform_of_refused, ?_⟩
  · intro handle position place
    obtain ⟨declaration, found, -⟩ := related.indexed.entry place
    exact (List.getElem?_eq_some_iff.mp found).1
  · intro listing listed later
    obtain ⟨same, ended⟩ := perform_beginFinalize listed
    have closed : Phase.finalizing ≠ .collecting := by decide
    have unchanged := @run_of_closed H _ _ { (machine.run calls .empty).2 with
      phase := .finalizing } closed later
    rw [ended, same]
    exact ⟨unchanged, congrArg Answer.listed unchanged⟩

end Accumulator

end RecordDerive
