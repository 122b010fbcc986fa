import RecordDerive.Proofs.Round.Accumulator
import RecordDerive.Round.Processor

/-!
# What a round does

While declarations are collected, a round tells nothing of its own mechanics: it
goes through a tally of declarations, diagnostics and counts, one handle after the
other, and a final round generates from the declarations of that tally and writes
until a file is refused.  Afterwards a round is turned away.
-/

namespace RecordDerive

open Code (Abort Artifact Generation Stop)
open Ledger (find? put drop)
open Output (Writer WriteFault)
open Text (FilePath)

variable {H W : Type} [DecidableEq H] [Hashable H]

/-! ## Presenting handles -/

/-- What some handles have come to in a round. -/
structure Tally (H : Type) where
  declarations : List (Declaration H)
  diagnostics : Diagnostics
  outcome : Outcome

namespace Tally

/-- The diagnostics with a warning, if a recorded declaration has changed. -/
def noted (source : Source H) (handle : H) (diagnostics : Diagnostics) : Recorded → Diagnostics
  | .replaced true => diagnostics.report (Round.changeWarning (source.label handle))
  | .replaced false => diagnostics
  | .added => diagnostics

/-- The tally with a handle presented. -/
def present (source : Source H) (tally : Tally H) (handle : H) : Tally H :=
  match source.accept handle with
  | .ok declaration =>
      { declarations := put declaration tally.declarations
        diagnostics := noted source handle tally.diagnostics
          (Ledger.recorded declaration (find? declaration.handle tally.declarations))
        outcome := { tally.outcome with recorded := tally.outcome.recorded + 1 } }
  | .error fault =>
      { declarations := drop handle tally.declarations
        diagnostics := tally.diagnostics.report (.fatal fault.declaration fault.message)
        outcome := { tally.outcome with failed := tally.outcome.failed + 1 } }

/-- The tally of a round that starts with some declarations. -/
def ofRound (source : Source H) (declarations : List (Declaration H)) (handles : List H) :
    Tally H :=
  handles.foldl (present source) ⟨declarations, .empty, {}⟩

omit [Hashable H] in
/-- Presenting handles writes no files. -/
theorem generated_foldl (source : Source H) (handles : List H) (tally : Tally H) :
    (handles.foldl (present source) tally).outcome.generated = tally.outcome.generated := by
  induction handles generalizing tally with
  | nil => rfl
  | cons handle handles ih =>
      refine (ih (tally.present source handle)).trans ?_
      rw [present]
      cases source.accept handle with
      | ok declaration => rfl
      | error fault => rfl

end Tally

/-- The accumulator after a handle was presented. -/
def Accumulator.absorb (source : Source H) (accumulator : Accumulator H) (handle : H) :
    Accumulator H :=
  match source.accept handle with
  | .ok declaration => ((accumulator.record declaration).map (·.2)).toOption.getD accumulator
  | .error _ => ((accumulator.forget handle).map (·.2)).toOption.getD accumulator

section Absorb

variable {source : Source H} {handle : H} {accumulator after : Accumulator H}

theorem Accumulator.absorb_ok {declaration : Declaration H} {recorded : Recorded}
    (accepted : source.accept handle = .ok declaration)
    (result : accumulator.record declaration = .ok (recorded, after)) :
    accumulator.absorb source handle = after := by
  rw [Accumulator.absorb, accepted]
  show ((accumulator.record declaration).map (·.2)).toOption.getD accumulator = after
  rw [result]
  rfl

theorem Accumulator.absorb_error {fault : DeclarationFault} {old : Option (Declaration H)}
    (rejected : source.accept handle = .error fault)
    (result : accumulator.forget handle = .ok (old, after)) :
    accumulator.absorb source handle = after := by
  rw [Accumulator.absorb, rejected]
  show ((accumulator.forget handle).map (·.2)).toOption.getD accumulator = after
  rw [result]
  rfl

end Absorb

theorem Accumulator.Collects.absorb {accumulator : Accumulator H} {tally : Tally H}
    (collects : accumulator.Collects tally.declarations) (source : Source H) (handle : H) :
    (accumulator.absorb source handle).Collects (tally.present source handle).declarations := by
  cases accepted : source.accept handle with
  | ok declaration =>
      obtain ⟨after, result, collects'⟩ := collects.record declaration
      rw [Accumulator.absorb_ok accepted result, Tally.present, accepted]
      exact collects'
  | error fault =>
      obtain ⟨after, result, collects'⟩ := collects.forget handle
      rw [Accumulator.absorb_error accepted result, Tally.present, accepted]
      exact collects'

namespace Round

theorem get_bind {α : Type} (next : Session H W → Round H W α) (session : Session H W) :
    (get >>= next) session = next session session := rfl

theorem bind_ok {α β : Type} {first : Round H W α} {next : α → Round H W β}
    {session after : Session H W} {answer : α} (result : first session = .ok answer after) :
    (first >>= next) session = next answer after := by
  show EStateM.bind first next session = next answer after
  rw [EStateM.bind, result]

theorem bind_error {α β : Type} {first : Round H W α} {next : α → Round H W β}
    {session after : Session H W} {stop : Stop RoundFault}
    (result : first session = .error stop after) :
    (first >>= next) session = .error stop after := by
  show EStateM.bind first next session = .error stop after
  rw [EStateM.bind, result]

variable {processor : Processor H W}

theorem onAccumulator_ok {α : Type}
    {operation : Accumulator H → Except Violation (α × Accumulator H)} {answer : α}
    {after : Accumulator H} (result : operation processor.accumulator = .ok (answer, after))
    (diagnostics : Diagnostics) :
    onAccumulator operation ⟨processor, diagnostics⟩ =
      .ok answer ⟨{ processor with accumulator := after }, diagnostics⟩ := by
  rw [onAccumulator]
  refine (get_bind _ _).trans ?_
  rw [result]
  rfl

/-- Presenting a handle does to a session what it does to the tally. -/
theorem present_eq {tally : Tally H} (collects : processor.accumulator.Collects tally.declarations)
    (source : Source H) (handle : H) :
    present source tally.outcome handle ⟨processor, tally.diagnostics⟩ =
      .ok (tally.present source handle).outcome
        ⟨{ processor with accumulator := processor.accumulator.absorb source handle },
          (tally.present source handle).diagnostics⟩ := by
  cases accepted : source.accept handle with
  | ok declaration =>
      obtain ⟨after, result, -⟩ := collects.record declaration
      rw [Accumulator.absorb_ok accepted result, present, Tally.present, accepted]
      refine (bind_ok (onAccumulator_ok result _)).trans ?_
      dsimp only
      cases Ledger.recorded declaration (find? declaration.handle tally.declarations) with
      | added => rfl
      | replaced structureChanged =>
          cases structureChanged with
          | false => rfl
          | true => rfl
  | error fault =>
      obtain ⟨after, result, -⟩ := collects.forget handle
      rw [Accumulator.absorb_error accepted result, present, Tally.present, accepted]
      exact bind_ok (onAccumulator_ok result _)

theorem foldlM_present (source : Source H) (handles : List H) {tally : Tally H}
    (collects : processor.accumulator.Collects tally.declarations) :
    let gathered := handles.foldl (Tally.present source) tally
    let accumulator := handles.foldl (Accumulator.absorb source) processor.accumulator
    handles.foldlM (present source) tally.outcome ⟨processor, tally.diagnostics⟩ =
        .ok gathered.outcome ⟨{ processor with accumulator }, gathered.diagnostics⟩ ∧
      accumulator.Collects gathered.declarations := by
  induction handles generalizing processor tally with
  | nil => exact ⟨rfl, collects⟩
  | cons handle handles ih =>
      -- The accumulator goes along with the tally, so that the next handle finds it collecting.
      let after := { processor with accumulator := processor.accumulator.absorb source handle }
      have next : after.accumulator.Collects (tally.present source handle).declarations :=
        collects.absorb source handle
      obtain ⟨result, reached⟩ := ih next
      refine ⟨?_, reached⟩
      rw [List.foldlM_cons]
      exact (bind_ok (present_eq collects source handle)).trans result

end Round

/-! ## Writing files -/

/-- Write files until one is refused. -/
def Output.deliver [Writer W] : List Artifact → W → Except WriteFault (List FilePath) × W
  | [], writer => (.ok [], writer)
  | file :: files, writer =>
      match Writer.write file writer with
      | (.error fault, after) => (.error fault, after)
      | (.ok path, after) =>
          let (paths, reached) := Output.deliver files after
          (paths.map (path :: ·), reached)

namespace Round

variable [Writer W] {processor : Processor H W}

theorem write_eq (file : Artifact) (diagnostics : Diagnostics) :
    write file ⟨processor, diagnostics⟩ =
      let (answer, writer) := Writer.write file processor.writer
      match answer with
      | .ok path => .ok path ⟨{ processor with writer }, diagnostics⟩
      | .error fault =>
          .error (.failed (.write fault)) ⟨{ processor with writer }, diagnostics⟩ := by
  rw [write]
  refine (get_bind _ _).trans ?_
  dsimp only
  rcases Writer.write file processor.writer with ⟨answer, writer⟩
  cases answer with
  | ok path => rfl
  | error fault => rfl

/-- Writing files one after the other is a delivery, and the writer keeps what came of
it also where it stops. -/
theorem mapM_write (files : List Artifact) (diagnostics : Diagnostics) :
    files.mapM write ⟨processor, diagnostics⟩ =
      let (paths, writer) := Output.deliver files processor.writer
      match paths with
      | .ok paths => .ok paths ⟨{ processor with writer }, diagnostics⟩
      | .error fault =>
          .error (.failed (.write fault)) ⟨{ processor with writer }, diagnostics⟩ := by
  induction files generalizing processor with
  | nil => rfl
  | cons file files ih =>
      rw [List.mapM_cons, Output.deliver]
      have wrote := @write_eq H W _ _ _ processor file diagnostics
      rcases attempt : Writer.write file processor.writer with ⟨answer, writer⟩
      rw [attempt] at wrote
      cases answer with
      | error fault => exact bind_error wrote
      | ok path =>
          have later := @ih { processor with writer }
          refine (bind_ok wrote).trans ?_
          dsimp only
          rcases delivered : Output.deliver files writer with ⟨paths, reached⟩
          rw [delivered] at later
          cases paths with
          | error fault => exact bind_error later
          | ok paths => exact bind_ok later

end Round

/-! ## Whole rounds -/

/-- The diagnostic about a declaration that is left without a file. -/
def Code.GenerationFault.diagnostic (failure : Code.GenerationFault) : Diagnostic :=
  .fatal failure.declaration failure.message

/-- The diagnostics with some more. -/
def Diagnostics.reportAll (diagnostics : Diagnostics) (more : List Diagnostic) : Diagnostics :=
  ⟨diagnostics.all ++ more⟩

namespace Processor

variable {processor : Processor H W}

/-- The report of a round that has gathered declarations and goes on to write what
was generated for them. -/
def close [Writer W] (processor : Processor H W) (diagnostics : Diagnostics) (outcome : Outcome)
    (generation : Generation) : Report H W :=
  let diagnostics := diagnostics.reportAll (generation.failures.map (·.diagnostic))
  let (paths, writer) := Output.deliver generation.artifacts processor.writer
  match paths with
  | .ok paths =>
      { processor := { processor with
          writer
          accumulator := { processor.accumulator with phase := .done } }
        diagnostics
        outcome := .ok { outcome with
          failed := outcome.failed + generation.failures.length
          generated := some paths } }
  | .error fault =>
      { processor := { processor with
          writer
          accumulator := { processor.accumulator with phase := .finalizing } }
        diagnostics
        outcome := .error (.write fault) }

/-- The processor after a round has gathered what it was presented with. -/
def gather (processor : Processor H W) (source : Source H) (handles : List H) : Processor H W :=
  { processor with
    accumulator := handles.foldl (Accumulator.absorb source) processor.accumulator
    rounds := processor.rounds + 1 }

end Processor

namespace Round

theorem forM_report (failures : List Code.GenerationFault) (session : Session H W) :
    (failures.forM fun failure => report (.fatal failure.declaration failure.message)) session =
      .ok () { session with
        diagnostics := session.diagnostics.reportAll (failures.map (·.diagnostic)) } := by
  induction failures generalizing session with
  | nil =>
      rw [List.map_nil, Diagnostics.reportAll, List.append_nil]
      rfl
  | cons failure failures ih =>
      have first : report failure.diagnostic session =
          .ok () { session with
            diagnostics := ⟨session.diagnostics.all ++ [failure.diagnostic]⟩ } := rfl
      refine (bind_ok first).trans ((ih _).trans ?_)
      rw [List.map_cons, Diagnostics.reportAll, Diagnostics.reportAll, List.append_assoc]
      rfl

variable [Writer W] {processor : Processor H W} {declarations : List (Declaration H)}

theorem finalize_eq (collects : processor.accumulator.Collects declarations)
    (diagnostics : Diagnostics) (outcome : Outcome) :
    finalize outcome ⟨processor, diagnostics⟩ =
      match Code.generate declarations processor.config with
      | .error abort => .error (.aborted abort) ⟨{ processor with
          accumulator := { processor.accumulator with phase := .finalizing } }, diagnostics⟩
      | .ok generation =>
          let report := processor.close diagnostics outcome generation
          match report.outcome with
          | .ok outcome => .ok outcome ⟨report.processor, report.diagnostics⟩
          | .error fault => .error (.failed fault) ⟨report.processor, report.diagnostics⟩ := by
  -- Collection ends before anything is generated, so it has ended also where this aborts.
  have closed : processor.accumulator.beginFinalize =
      .ok (declarations, { processor.accumulator with phase := .finalizing }) := by
    have listed : processor.accumulator.snapshot = declarations := collects.entries
    rw [Accumulator.beginFinalize, if_neg (not_not_intro collects.phase), listed]
  rw [finalize]
  refine (bind_ok (onAccumulator_ok closed diagnostics)).trans ?_
  refine (get_bind _ _).trans ?_
  dsimp only
  cases Code.generate declarations processor.config with
  | error abort => rfl
  | ok generation =>
      refine (bind_ok (forM_report generation.failures _)).trans ?_
      have written := @mapM_write H W _ _ _
        { processor with accumulator := { processor.accumulator with phase := .finalizing } }
        generation.artifacts (diagnostics.reportAll (generation.failures.map (·.diagnostic)))
      dsimp only [Processor.close] at written ⊢
      rcases delivered : Output.deliver generation.artifacts processor.writer with ⟨paths, writer⟩
      rw [delivered] at written
      cases paths with
      | error fault => exact bind_error written
      | ok paths =>
          refine (bind_ok written).trans ?_
          exact bind_ok (onAccumulator_ok rfl _)

/-- A round of a collecting processor first gathers what it is presented with. -/
theorem run_eq (collects : processor.accumulator.Collects declarations) (source : Source H)
    (handles : List H) (isFinal : Bool) :
    let tally := Tally.ofRound source declarations handles
    let session : Session H W := ⟨processor.gather source handles, tally.diagnostics⟩
    run source handles isFinal ⟨processor, .empty⟩ =
      if isFinal then finalize tally.outcome session else .ok tally.outcome session := by
  have entered : enter (H := H) (W := W) ⟨processor, .empty⟩ =
      .ok () ⟨{ processor with rounds := processor.rounds + 1 }, .empty⟩ := by
    rw [enter]
    refine (get_bind _ _).trans ?_
    rw [collects.phase]
    rfl
  rw [run]
  refine (bind_ok entered).trans ?_
  have gathered := (@foldlM_present H W _ _ { processor with rounds := processor.rounds + 1 }
    source handles ⟨declarations, .empty, {}⟩ collects).1
  refine (bind_ok gathered).trans ?_
  cases isFinal with
  | false => rfl
  | true => rfl

end Round

namespace Processor

variable {processor : Processor H W} {declarations : List (Declaration H)}

theorem gather_collects (collects : processor.accumulator.Collects declarations)
    (source : Source H) (handles : List H) :
    (processor.gather source handles).accumulator.Collects
      (Tally.ofRound source declarations handles).declarations :=
  (@Round.foldlM_present H W _ _ processor source handles ⟨declarations, .empty, {}⟩ collects).2

variable [Writer W]

theorem onRound_gathers (collects : processor.accumulator.Collects declarations)
    (source : Source H) (handles : List H) :
    processor.onRound source handles false =
      .ok ⟨processor.gather source handles,
        (Tally.ofRound source declarations handles).diagnostics,
        .ok (Tally.ofRound source declarations handles).outcome⟩ := by
  rw [onRound, Round.run_eq collects, if_neg Bool.false_ne_true]

/-- A final round generates from what it has gathered, and closes with the result. -/
theorem onRound_closes (collects : processor.accumulator.Collects declarations)
    (source : Source H) (handles : List H) :
    processor.onRound source handles true =
      (Code.generate (Tally.ofRound source declarations handles).declarations
        processor.config).map
        ((processor.gather source handles).close
          (Tally.ofRound source declarations handles).diagnostics
          (Tally.ofRound source declarations handles).outcome) := by
  rw [onRound, Round.run_eq collects, if_pos rfl,
    Round.finalize_eq (gather_collects collects source handles)]
  dsimp only
  have unchanged : (processor.gather source handles).config = processor.config := rfl
  rw [unchanged]
  cases Code.generate (Tally.ofRound source declarations handles).declarations processor.config with
  | error abort => rfl
  | ok generation =>
      dsimp only [Except.map]
      rcases (processor.gather source handles).close _ _ generation with
        ⟨after, diagnostics, outcome⟩
      cases outcome with
      | error fault => rfl
      | ok outcome => rfl

/-- All that a collecting processor can report: a round gathers, and a final one closes with what
was generated. -/
theorem onRound_cases (collects : processor.accumulator.Collects declarations)
    {source : Source H} {handles : List H} {isFinal : Bool} {report : Report H W}
    (reported : processor.onRound source handles isFinal = .ok report) :
    let tally := Tally.ofRound source declarations handles
    (isFinal = false ∧
      report = ⟨processor.gather source handles, tally.diagnostics, .ok tally.outcome⟩) ∨
    ∃ generation, isFinal = true ∧
      Code.generate tally.declarations processor.config = .ok generation ∧
      report = (processor.gather source handles).close tally.diagnostics tally.outcome
        generation := by
  intro tally
  cases isFinal with
  | false =>
      rw [onRound_gathers collects] at reported
      exact .inl ⟨rfl, (Except.ok.inj reported).symm⟩
  | true =>
      rw [onRound_closes collects] at reported
      cases generated : Code.generate tally.declarations processor.config with
      | error abort =>
          rw [generated] at reported
          cases reported
      | ok generation =>
          rw [generated] at reported
          exact .inr ⟨generation, rfl, rfl, (Except.ok.inj reported).symm⟩

/-- The report of a round that is turned away. -/
def turnAway (processor : Processor H W) : Report H W where
  processor := processor
  diagnostics := .empty
  outcome := .error (.invariant
    (if processor.accumulator.phase = .done then .roundAfterDone else .roundDuringFinalize))

/-- Without collection, no round is accepted. -/
theorem onRound_of_closed (closed : processor.accumulator.phase ≠ .collecting)
    (source : Source H) (handles : List H) (isFinal : Bool) :
    processor.onRound source handles isFinal = .ok processor.turnAway := by
  have refused : Round.enter ⟨processor, .empty⟩ = .error (.failed (.invariant
      (if processor.accumulator.phase = .done then .roundAfterDone else .roundDuringFinalize)))
      ⟨processor, .empty⟩ := by
    rw [Round.enter]
    refine (Round.get_bind _ _).trans ?_
    cases phase : processor.accumulator.phase with
    | collecting => exact absurd phase closed
    | finalizing => rfl
    | done => rfl
  rw [onRound, Round.run, Round.bind_error refused, turnAway]

end Processor

/-! ## Runs -/

/-- What a host asks of one round. -/
structure Visit (H : Type) where
  source : Source H
  handles : List H
  isFinal : Bool

/-- A visit that leaves declarations to be collected by later ones. -/
def Visit.gathering (source : Source H) (handles : List H) : Visit H := ⟨source, handles, false⟩

/-- The reports of some visits, each to the processor that the one before left
behind, and the processor that they lead to. -/
def Processor.follow [Writer W] (processor : Processor H W) :
    List (Visit H) → Except Abort (List (Processor.Report H W) × Processor H W)
  | [] => .ok ([], processor)
  | visit :: visits => do
      let report ← processor.onRound visit.source visit.handles visit.isFinal
      let (reports, reached) ← report.processor.follow visits
      return (report :: reports, reached)

theorem Processor.follow_cons [Writer W] {processor : Processor H W} {visit : Visit H}
    {report : Processor.Report H W}
    (first : processor.onRound visit.source visit.handles visit.isFinal = .ok report)
    (visits : List (Visit H)) :
    processor.follow (visit :: visits) =
      (report.processor.follow visits).map fun run => (report :: run.1, run.2) := by
  rw [follow, first]
  show (report.processor.follow visits >>= _) = _
  cases report.processor.follow visits with
  | error abort => rfl
  | ok run => rfl

end RecordDerive
