import RecordDerive.Code.Generate
import RecordDerive.Declaration.Validation
import RecordDerive.Output.Writer
import RecordDerive.Round.Accumulator
import RecordDerive.Round.Diagnostic

/-!
# Rounds

A host presents its declarations in rounds.  Each handle is read anew whenever it
is presented: what is read takes the place of what was recorded before, and a
handle that fails is reported and no longer recorded.  The final round generates
the files for all that is recorded.  Its first refused write ends it, and no
round is accepted afterwards.
-/

namespace RecordDerive

open Code (Stop)
open Output (Writer WriteFault)
open Text (FilePath)

/-- The mark on declarations that are presented. -/
def productMark : String := "product"

/-- The causes for which a round ends without an outcome. -/
inductive RoundFault
  | invariant (violation : Violation)
  | write (fault : WriteFault)
  deriving Repr, DecidableEq

/-- The wording of a round fault. -/
def RoundFault.message : RoundFault → String
  | .invariant violation => violation.message
  | .write fault => fault.message

/-- What a round did. -/
structure Outcome where
  /-- How often a declaration was recorded. -/
  recorded : Nat := 0
  /-- How many fatal diagnostics were reported. -/
  failed : Nat := 0
  /-- Where the files of a final round went. -/
  generated : Option (List FilePath) := none
  deriving Repr, DecidableEq

/-- Whether nothing failed. -/
def Outcome.isSuccess (outcome : Outcome) : Bool :=
  outcome.failed = 0

/-- What is kept between rounds. -/
structure Processor (H W : Type) [DecidableEq H] [Hashable H] where
  writer : W
  config : Config
  accumulator : Accumulator H
  /-- How many rounds were accepted. -/
  rounds : Nat

/-- A processor that has seen no round. -/
def Processor.new {H W : Type} [DecidableEq H] [Hashable H] (writer : W) (config : Config) :
    Processor H W :=
  ⟨writer, config, .empty, 0⟩

/-- A processor with what it has reported during a round. -/
structure Session (H W : Type) [DecidableEq H] [Hashable H] where
  processor : Processor H W
  diagnostics : Diagnostics

/-- A part of a round.  Where it stops, what was done before remains. -/
abbrev Round (H W : Type) [DecidableEq H] [Hashable H] :=
  EStateM (Stop RoundFault) (Session H W)

namespace Round

variable {H W : Type} [DecidableEq H] [Hashable H]

/-- Report a diagnostic. -/
def report (diagnostic : Diagnostic) : Round H W Unit :=
  modify fun session => { session with diagnostics := session.diagnostics.report diagnostic }

/-- An operation of the accumulator. -/
def onAccumulator {α : Type} (operation : Accumulator H → Except Violation (α × Accumulator H)) :
    Round H W α := do
  let session ← get
  match operation session.processor.accumulator with
  | .error violation => throw (.failed (.invariant violation))
  | .ok (answer, accumulator) =>
    set { session with processor := { session.processor with accumulator } }
    return answer

/-- Write a file. -/
def write [Writer W] (file : Code.Artifact) : Round H W FilePath := do
  let session ← get
  let (answer, writer) := Writer.write file session.processor.writer
  set { session with processor := { session.processor with writer } }
  match answer with
  | .ok path => return path
  | .error fault => throw (.failed (.write fault))

/-- Accept a round where the phase allows one. -/
def enter : Round H W Unit := do
  let session ← get
  match session.processor.accumulator.phase with
  | .collecting =>
    set { session with processor := { session.processor with rounds := session.processor.rounds + 1 } }
  | .finalizing => throw (.failed (.invariant .roundDuringFinalize))
  | .done => throw (.failed (.invariant .roundAfterDone))

/-- The warning about a declaration that has changed. -/
def changeWarning (name : String) : Diagnostic :=
  .warning name (name ++ " was recorded again with a different structure; the latest one is used")

/-- Present a handle. -/
def present (source : Source H) (outcome : Outcome) (handle : H) : Round H W Outcome := do
  match source.accept handle with
  | .ok declaration =>
    match ← onAccumulator (·.record declaration) with
    | .replaced true => report (changeWarning (source.label handle))
    | .replaced false | .added => pure ()
    return { outcome with recorded := outcome.recorded + 1 }
  | .error fault =>
    let _ ← onAccumulator (·.forget handle)
    report (.fatal fault.declaration fault.message)
    return { outcome with failed := outcome.failed + 1 }

/-- Generate and write the files for all that is recorded. -/
def finalize [Writer W] (outcome : Outcome) : Round H W Outcome := do
  let declarations ← onAccumulator (·.beginFinalize)
  match Code.generate declarations (← get).processor.config with
  | .error abort => throw (.aborted abort)
  | .ok generation =>
    generation.failures.forM fun failure => report (.fatal failure.declaration failure.message)
    let paths ← generation.artifacts.mapM write
    onAccumulator (·.finish)
    return { outcome with
      failed := outcome.failed + generation.failures.length
      generated := some paths }

/-- A round over some handles. -/
def run [Writer W] (source : Source H) (handles : List H) (isFinal : Bool) :
    Round H W Outcome := do
  enter
  let outcome ← handles.foldlM (present source) {}
  if isFinal then finalize outcome else return outcome

end Round

namespace Processor

variable {H W : Type} [DecidableEq H] [Hashable H]

/-- What a round leaves behind. -/
structure Report (H W : Type) [DecidableEq H] [Hashable H] where
  processor : Processor H W
  diagnostics : Diagnostics
  outcome : Except RoundFault Outcome

/-- A round over some handles; nothing is left behind where it aborts. -/
def onRound [Writer W] (processor : Processor H W) (source : Source H) (handles : List H)
    (isFinal : Bool) : Except Code.Abort (Report H W) :=
  match Round.run source handles isFinal ⟨processor, .empty⟩ with
  | .ok outcome ⟨after, diagnostics⟩ => .ok ⟨after, diagnostics, .ok outcome⟩
  | .error (.failed fault) ⟨after, diagnostics⟩ => .ok ⟨after, diagnostics, .error fault⟩
  | .error (.aborted abort) _ => .error abort

end Processor

end RecordDerive
