import RecordDerive.Declaration.Basic
import Std.Data.ExtHashMap

/-!
# What rounds collect

Declarations are kept in the order in which their handles first came up, with an
index from handles to their places.  Collection ends once: the phases follow one
another, and an operation out of phase is refused and changes nothing.
-/

namespace RecordDerive

/-- The phases of an accumulator. -/
inductive Phase
  | collecting
  | finalizing
  | done
  deriving Repr, DecidableEq

/-- The name of a phase. -/
def Phase.text : Phase → String
  | .collecting => "collecting"
  | .finalizing => "finalizing"
  | .done => "done"

/-- An operation out of phase. -/
inductive Violation
  | recordAfterFinalize (name : String) (phase : Phase)
  | forgetAfterFinalize (phase : Phase)
  | alreadyFinalized (phase : Phase)
  | finishWithoutFinalize (phase : Phase)
  | roundAfterDone
  | roundDuringFinalize
  deriving Repr, DecidableEq

/-- The wording of a violation. -/
def Violation.message : Violation → String
  | .recordAfterFinalize name phase =>
      "Cannot record " ++ name ++ " while the accumulator is " ++ phase.text
  | .forgetAfterFinalize phase =>
      "Cannot forget a declaration while the accumulator is " ++ phase.text
  | .alreadyFinalized phase =>
      "Cannot finalize an accumulator that is already " ++ phase.text
  | .finishWithoutFinalize phase => "Cannot finish an accumulator that is " ++ phase.text
  | .roundAfterDone => "A round was started after code generation completed"
  | .roundDuringFinalize => "A round was started while a failed write was being finalized"

/-- What recording a declaration did. -/
inductive Recorded
  | added
  /-- The handle was known, and its declaration took the place of the old one. -/
  | replaced (structureChanged : Bool)
  deriving Repr, DecidableEq

/-- The declarations collected so far. -/
structure Accumulator (H : Type) [DecidableEq H] [Hashable H] where
  entries : List (Declaration H)
  /-- The places of handles among the entries. -/
  positions : Std.ExtHashMap H Nat
  phase : Phase

namespace Accumulator

variable {H : Type} [DecidableEq H] [Hashable H]

/-- Nothing collected. -/
def empty : Accumulator H := ⟨[], ∅, .collecting⟩

/-- The declarations in order. -/
def snapshot (accumulator : Accumulator H) : List (Declaration H) :=
  accumulator.entries

/-- The declaration under a handle. -/
def get (accumulator : Accumulator H) (handle : H) : Option (Declaration H) := do
  let position ← accumulator.positions[handle]?
  accumulator.entries[position]?

/-- Put a declaration in the place of the one under its handle, or at the end. -/
def record (accumulator : Accumulator H) (declaration : Declaration H) :
    Except Violation (Recorded × Accumulator H) :=
  if accumulator.phase ≠ .collecting then
    .error (.recordAfterFinalize declaration.qualifiedName accumulator.phase)
  else
    match accumulator.positions[declaration.handle]? with
    | some position =>
      let agrees := accumulator.entries[position]?.any (·.sameStructure declaration)
      .ok (.replaced !agrees,
        { accumulator with entries := accumulator.entries.set position declaration })
    | none =>
      .ok (.added,
        { accumulator with
          entries := accumulator.entries ++ [declaration]
          positions := accumulator.positions.insert declaration.handle accumulator.entries.length })

/-- Take out the declaration under a handle. -/
def forget (accumulator : Accumulator H) (handle : H) :
    Except Violation (Option (Declaration H) × Accumulator H) :=
  if accumulator.phase ≠ .collecting then .error (.forgetAfterFinalize accumulator.phase)
  else
    match accumulator.positions[handle]? with
    | none => .ok (none, accumulator)
    | some position =>
      .ok (accumulator.entries[position]?,
        { accumulator with
          entries := accumulator.entries.eraseIdx position
          positions := (accumulator.positions.erase handle).map fun _ place =>
            if place > position then place - 1 else place })

/-- End collection, and hand out what was collected. -/
def beginFinalize (accumulator : Accumulator H) :
    Except Violation (List (Declaration H) × Accumulator H) :=
  if accumulator.phase ≠ .collecting then .error (.alreadyFinalized accumulator.phase)
  else .ok (accumulator.snapshot, { accumulator with phase := .finalizing })

/-- Note that what was handed out has been dealt with. -/
def finish (accumulator : Accumulator H) : Except Violation (Unit × Accumulator H) :=
  if accumulator.phase ≠ .finalizing then .error (.finishWithoutFinalize accumulator.phase)
  else .ok ((), { accumulator with phase := .done })

end Accumulator

end RecordDerive
