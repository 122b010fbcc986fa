import Mathlib.Data.List.ReduceOption
import RecordDerive.Proofs.Code.Allotment
import RecordDerive.Proofs.Round.Siblings

/-!
# What a round tells its host

Presenting a handle is answered by one remark at most, which depends on what is
accumulated by then, and a declaration that is left without a file by a fatal diagnostic.
A round reports the remarks in the order of the handles, and behind them the failures of
its generation in the order of the declarations.  The counts of its outcome are those of
what it has reported.
-/

namespace RecordDerive

open Code (Generation GenerationFault)
open Ledger (find?)
open Output (Writer WriteFault)

/-! ## Failures -/

namespace Code

/-- A fault names the declaration that is left without a file for it. -/
theorem Course.Next.named {H : Type} {config : Config} {course : Course H}
    {declaration : Declaration H} {failure : GenerationFault}
    (next : Course.Next config course declaration (.fault failure)) :
    failure.declaration = declaration.qualifiedName := by
  cases next with
  | taken rendered owned same => rfl
  | failed stopped =>
      obtain ⟨cause, rfl⟩ := render_failed stopped
      rfl

/-- The faults of a course name declarations in their order. -/
theorem Course.Runs.exists_failed {H : Type} {config : Config} {course : Course H}
    (runs : Course.Runs config course) :
    ∃ failed : List (Declaration H), failed.Sublist (course.map (·.1)) ∧
      course.faults.map (·.declaration) = failed.map (·.qualifiedName) := by
  induction runs with
  | nil => exact ⟨[], by simp, rfl⟩
  | @snoc course declaration fate runs next ih =>
      obtain ⟨failed, among, named⟩ := ih
      rw [List.map_append]
      cases fate with
      | file artifact =>
          refine ⟨failed, among.trans (List.sublist_append_left _ _), ?_⟩
          simpa [Course.faults, Fate.fault?] using named
      | fault failure =>
          refine ⟨failed ++ [declaration], among.append (List.Sublist.refl _), ?_⟩
          simpa [Course.faults, Fate.fault?, next.named] using named

/-- A generation has a file or a failure for each declaration, and its failures in the
order of the declarations. -/
theorem generate_covers {H : Type} {declarations : List (Declaration H)} {config : Config}
    {generation : Generation} (generated : generate declarations config = .ok generation) :
    generation.artifacts.length + generation.failures.length = declarations.length ∧
      ∃ failed : List (Declaration H), failed.Sublist declarations ∧
        generation.failures.map (·.declaration) = failed.map (·.qualifiedName) := by
  obtain ⟨course, runs, rfl, rfl⟩ := Course.exists_runs generated
  rw [Course.generation_artifacts, List.length_map]
  exact ⟨course.length_files_add_faults, runs.exists_failed⟩

end Code

variable {H W : Type} [DecidableEq H] [Hashable H]

/-! ## Remarks -/

/-- What a host is told when a handle is presented to an accumulator: why there is no
declaration, that the one accumulated has changed, or nothing. -/
inductive Remark (source : Source H) (accumulator : Accumulator H) (handle : H) :
    Option Diagnostic → Prop
  | rejected {fault : DeclarationFault} (rejected : source.accept handle = .error fault) :
      Remark source accumulator handle (some (.fatal fault.declaration fault.message))
  | changed {old declaration : Declaration H} (accepted : source.accept handle = .ok declaration)
      (accumulated : accumulator.get handle = some old)
      (differs : old.qualifiedName ≠ declaration.qualifiedName ∨
        old.fields ≠ declaration.fields) :
      Remark source accumulator handle (some (Round.changeWarning (source.label handle)))
  | kept {old declaration : Declaration H} (accepted : source.accept handle = .ok declaration)
      (accumulated : accumulator.get handle = some old)
      (name : old.qualifiedName = declaration.qualifiedName)
      (fields : old.fields = declaration.fields) :
      Remark source accumulator handle none
  | added {declaration : Declaration H} (accepted : source.accept handle = .ok declaration)
      (unknown : accumulator.get handle = none) :
      Remark source accumulator handle none

/-- What a host is told while handles are presented one after the other. -/
inductive Remarks (source : Source H) :
    Accumulator H → List H → List (Option Diagnostic) → Prop
  | nil (accumulator : Accumulator H) : Remarks source accumulator [] []
  | cons {accumulator : Accumulator H} {handle : H} {handles : List H}
      {remark : Option Diagnostic} {remarks : List (Option Diagnostic)}
      (first : Remark source accumulator handle remark)
      (later : Remarks source (accumulator.absorb source handle) handles remarks) :
      Remarks source accumulator (handle :: handles) (remark :: remarks)

/-- How many of some diagnostics are fatal. -/
def countFatal (diagnostics : List Diagnostic) : Nat :=
  diagnostics.countP Diagnostic.isFatal

@[simp] theorem countFatal_nil : countFatal [] = 0 := rfl

@[simp] theorem countFatal_append (first second : List Diagnostic) :
    countFatal (first ++ second) = countFatal first + countFatal second :=
  List.countP_append

/-- Every failure of a generation is fatal. -/
@[simp] theorem countFatal_failures (failures : List GenerationFault) :
    countFatal (failures.map (·.diagnostic)) = failures.length := by
  rw [countFatal, List.countP_map, List.countP_eq_length]
  intro failure member
  rfl

theorem Diagnostics.length_fatal (diagnostics : Diagnostics) :
    diagnostics.fatal.length = countFatal diagnostics.all := by
  rw [Diagnostics.fatal, countFatal, List.countP_eq_length_filter]

namespace Remark

variable {source : Source H} {accumulator : Accumulator H} {handle : H}
  {remark : Option Diagnostic}

/-- A warning is the remark about a handle whose declaration takes the place of one with
another name or other fields, and about no other. -/
theorem warns_iff (told : Remark source accumulator handle remark) :
    remark = some (Round.changeWarning (source.label handle)) ↔
      ∃ old declaration, source.accept handle = .ok declaration ∧
        accumulator.get handle = some old ∧
        (old.qualifiedName ≠ declaration.qualifiedName ∨ old.fields ≠ declaration.fields) := by
  cases told with
  | rejected rejected =>
      simp [rejected, Round.changeWarning, Diagnostic.fatal, Diagnostic.warning]
  | changed accepted accumulated differs => simp [accepted, accumulated, differs]
  | kept accepted accumulated name fields => simp [accepted, accumulated, name, fields]
  | added accepted unknown => simp [unknown]

/-- Presenting a handle reports a remark, and counts a declaration unless the remark is
fatal. -/
theorem exists_present {tally : Tally H} (collects : accumulator.Collects tally.declarations)
    (source : Source H) (handle : H) :
    ∃ remark : Option Diagnostic, Remark source accumulator handle remark ∧
      (tally.present source handle).diagnostics.all = tally.diagnostics.all ++ remark.toList ∧
      (tally.present source handle).outcome.failed =
        tally.outcome.failed + countFatal remark.toList ∧
      (tally.present source handle).outcome.recorded + countFatal remark.toList =
        tally.outcome.recorded + 1 := by
  have known : accumulator.get handle = find? handle tally.declarations := by
    rw [collects.indexed.get_eq, collects.entries]
  cases accepted : source.accept handle with
  | error fault =>
      refine ⟨_, .rejected accepted, ?_⟩
      simp [Tally.present, accepted, Diagnostics.report, countFatal, Diagnostic.fatal,
        Diagnostic.isFatal]
  | ok declaration =>
      have named : declaration.handle = handle := (Source.accept_eq_ok accepted).2.1
      cases found : find? handle tally.declarations with
      | none =>
          refine ⟨none, .added accepted (known.trans found), ?_⟩
          simp [Tally.present, accepted, named, found, Ledger.recorded, Tally.noted]
      | some old =>
          have accumulated := known.trans found
          by_cases differs : old.qualifiedName ≠ declaration.qualifiedName ∨
              old.fields ≠ declaration.fields
          · refine ⟨_, .changed accepted accumulated differs, ?_⟩
            simp [Tally.present, accepted, named, found, Ledger.recorded, differs, Tally.noted,
              Diagnostics.report, countFatal, Round.changeWarning, Diagnostic.warning,
              Diagnostic.isFatal]
          · obtain ⟨name, fields⟩ := not_or.mp differs
            refine ⟨none, .kept accepted accumulated (not_not.mp name) (not_not.mp fields), ?_⟩
            simp [Tally.present, accepted, named, found, Ledger.recorded, differs, Tally.noted]

end Remark

/-- The remarks about some handles are what the tally reports, and the fatal ones what it
counts. -/
theorem Remarks.exists_foldl (source : Source H) (handles : List H) {accumulator : Accumulator H}
    {tally : Tally H} (collects : accumulator.Collects tally.declarations) :
    ∃ remarks, Remarks source accumulator handles remarks ∧
      let gathered := handles.foldl (Tally.present source) tally
      gathered.diagnostics.all = tally.diagnostics.all ++ remarks.reduceOption ∧
      gathered.outcome.failed = tally.outcome.failed + countFatal remarks.reduceOption ∧
      gathered.outcome.recorded + countFatal remarks.reduceOption =
        tally.outcome.recorded + handles.length := by
  induction handles generalizing accumulator tally with
  | nil => exact ⟨[], .nil accumulator, by simp⟩
  | cons handle handles ih =>
      obtain ⟨remark, first, diagnostics, failed, recorded⟩ :=
        Remark.exists_present collects source handle
      obtain ⟨remarks, later, diagnostics', failed', recorded'⟩ :=
        ih (collects.absorb source handle)
      have split : (remark :: remarks).reduceOption = remark.toList ++ remarks.reduceOption := by
        cases remark with
        | none => simp
        | some diagnostic => simp
      refine ⟨remark :: remarks, .cons first later, ?_⟩
      simp only [List.foldl_cons, split, countFatal_append, List.length_cons]
      refine ⟨?_, ?_, ?_⟩
      · rw [diagnostics', diagnostics, List.append_assoc]
      · rw [failed', failed, Nat.add_assoc]
      · omega

/-- The remarks about the handles of a round are what its tally reports and counts. -/
structure Tally.Remarked (source : Source H) (accumulator : Accumulator H) (handles : List H)
    (tally : Tally H) (remarks : List (Option Diagnostic)) : Prop where
  told : Remarks source accumulator handles remarks
  diagnostics : tally.diagnostics.all = remarks.reduceOption
  failed : tally.outcome.failed = countFatal remarks.reduceOption
  recorded : tally.outcome.recorded + countFatal remarks.reduceOption = handles.length

theorem Tally.exists_remarked {accumulator : Accumulator H} {declarations : List (Declaration H)}
    (collects : accumulator.Collects declarations) (source : Source H) (handles : List H) :
    ∃ remarks, (Tally.ofRound source declarations handles).Remarked source accumulator handles
      remarks := by
  have start : accumulator.Collects (⟨declarations, .empty, {}⟩ : Tally H).declarations := collects
  obtain ⟨remarks, told, diagnostics, failed, recorded⟩ :=
    Remarks.exists_foldl source handles start
  exact ⟨remarks, told, diagnostics, failed.trans (Nat.zero_add _), recorded.trans (Nat.zero_add _)⟩

/-! ## Accounts -/

/-- A writer that takes all files answers with one path each. -/
theorem Output.Accepted.length_eq [Writer W] {writer reached : W} {files : List Code.Artifact}
    {paths : List Text.FilePath} (accepted : Output.Accepted writer files paths reached) :
    paths.length = files.length := by
  induction accepted with
  | nil writer => rfl
  | cons taken later ih => rw [List.length_cons, List.length_cons, ih]

namespace Processor

/-- What a round has told: the remarks about its handles and then the failures of its
generation, whether or not all files were taken, and counts that agree with both. -/
structure Account (processor : Processor H W) (source : Source H) (handles : List H)
    (isFinal : Bool) (report : Report H W) (remarks : List (Option Diagnostic))
    (failures : List GenerationFault) : Prop where
  remarked : Remarks source processor.accumulator handles remarks
  reported : report.diagnostics.all = remarks.reduceOption ++ failures.map (·.diagnostic)
  gathered : isFinal = false →
    failures = [] ∧ report.processor.writer = processor.writer ∧
      ∃ outcome, report.outcome = .ok outcome ∧ outcome.generated = none
  generated : isFinal = true → ∃ generation,
    Code.generate report.processor.accumulator.entries processor.config = .ok generation ∧
      generation.failures = failures
  ordered : ∃ failed : List (Declaration H),
    failed.Sublist report.processor.accumulator.entries ∧
      failures.map (·.declaration) = failed.map (·.qualifiedName)
  failed : ∀ outcome, report.outcome = .ok outcome →
    outcome.failed = report.diagnostics.fatal.length
  handled : ∀ outcome, report.outcome = .ok outcome →
    handles.length = outcome.recorded + countFatal remarks.reduceOption
  closed : isFinal = true → ∀ outcome, report.outcome = .ok outcome →
    ∃ paths, outcome.generated = some paths ∧
      paths.length + failures.length = report.processor.accumulator.entries.length
  refused : ∀ fault, report.outcome = .error fault →
    isFinal = true ∧ ∃ refusal, fault = .write refusal

variable [Writer W] {processor : Processor H W}

/-- A round that closes well adds its failures to the counts, and has a path for each
file. -/
theorem close_eq_ok {diagnostics : Diagnostics} {outcome result : Outcome}
    {generation : Generation}
    (succeeded : (processor.close diagnostics outcome generation).outcome = .ok result) :
    ∃ paths, paths.length = generation.artifacts.length ∧
      result = { outcome with
        failed := outcome.failed + generation.failures.length
        generated := some paths } := by
  rw [close] at succeeded
  rcases Output.deliver_cases generation.artifacts processor.writer with
    ⟨paths, reached, delivered, accepted⟩ | ⟨fault, reached, _, _, _, _, _, delivered, _⟩
  · rw [delivered] at succeeded
    cases succeeded
    exact ⟨paths, accepted.length_eq, rfl⟩
  · rw [delivered] at succeeded
    cases succeeded

theorem close_eq_error {diagnostics : Diagnostics} {outcome : Outcome} {generation : Generation}
    {fault : RoundFault}
    (stopped : (processor.close diagnostics outcome generation).outcome = .error fault) :
    ∃ refusal, fault = .write refusal := by
  rw [close] at stopped
  rcases Output.deliver_cases generation.artifacts processor.writer with
    ⟨paths, reached, delivered, _⟩ | ⟨refusal, reached, _, _, _, _, _, delivered, _⟩
  · rw [delivered] at stopped
    cases stopped
  · rw [delivered] at stopped
    cases stopped
    exact ⟨refusal, rfl⟩

namespace Account

variable {source : Source H} {handles : List H} {remarks : List (Option Diagnostic)}
  {tally : Tally H}

omit [Output.Writer W] in
/-- The account of a round that only gathers. -/
theorem gathering (remarked : tally.Remarked source processor.accumulator handles remarks)
    (generated : tally.outcome.generated = none) :
    Account processor source handles false
      ⟨processor.gather source handles, tally.diagnostics, .ok tally.outcome⟩ remarks [] where
  remarked := remarked.told
  reported := by simp [remarked.diagnostics]
  gathered := fun _ => ⟨rfl, rfl, tally.outcome, rfl, generated⟩
  generated := nofun
  ordered := ⟨[], by simp, rfl⟩
  failed := by
    intro outcome succeeded
    cases succeeded
    rw [Diagnostics.length_fatal, remarked.diagnostics, remarked.failed]
  handled := by
    intro outcome succeeded
    cases succeeded
    exact remarked.recorded.symm
  closed := nofun
  refused := nofun

/-- The account of a round that gathers, and closes with a generation of all that is
accumulated then. -/
theorem closing (remarked : tally.Remarked source processor.accumulator handles remarks)
    {generation : Generation}
    (generated : Code.generate (processor.gather source handles).accumulator.entries
      processor.config = .ok generation) :
    Account processor source handles true
      ((processor.gather source handles).close tally.diagnostics tally.outcome generation)
      remarks generation.failures := by
  obtain ⟨covered, ordered⟩ := Code.generate_covers generated
  have reported : ((processor.gather source handles).close tally.diagnostics tally.outcome
      generation).diagnostics.all =
        remarks.reduceOption ++ generation.failures.map (·.diagnostic) := by
    rw [close_diagnostics, Diagnostics.reportAll, remarked.diagnostics]
  refine
    { remarked := remarked.told, reported, gathered := Bool.noConfusion
      generated := ?generated, ordered := ?ordered, failed := ?failed, handled := ?handled
      closed := ?closed, refused := ?refused }
  case generated =>
    intro _
    rw [close_entries]
    exact ⟨generation, generated, rfl⟩
  case ordered =>
    rw [close_entries]
    exact ordered
  case failed =>
    intro outcome succeeded
    obtain ⟨paths, length, rfl⟩ := close_eq_ok succeeded
    rw [Diagnostics.length_fatal, reported, countFatal_append, countFatal_failures,
      remarked.failed]
  case handled =>
    intro outcome succeeded
    obtain ⟨paths, length, rfl⟩ := close_eq_ok succeeded
    exact remarked.recorded.symm
  case closed =>
    intro _ outcome succeeded
    obtain ⟨paths, length, rfl⟩ := close_eq_ok succeeded
    rw [close_entries, ← covered, ← length]
    exact ⟨paths, rfl, rfl⟩
  case refused =>
    intro fault stopped
    exact ⟨rfl, close_eq_error stopped⟩

end Account

/-- Every round that a collecting processor reports has told its host what it counts: as
many fatal diagnostics as failures, a remark at most for each handle, and a file or a
failure for each declaration where it is final. -/
theorem Reachable.onRound_account (reachable : Reachable processor)
    (collecting : processor.accumulator.phase = .collecting) {source : Source H}
    {handles : List H} {isFinal : Bool} {report : Report H W}
    (reported : processor.onRound source handles isFinal = .ok report) :
    ∃ remarks failures, Account processor source handles isFinal report remarks failures := by
  have collects := reachable.collects collecting
  obtain ⟨remarks, remarked⟩ := Tally.exists_remarked collects source handles
  cases isFinal with
  | false =>
      rw [onRound_gathers collects] at reported
      cases reported
      have unfinished := Tally.generated_foldl source handles
        ⟨processor.accumulator.entries, .empty, {}⟩
      exact ⟨remarks, [], .gathering remarked unfinished⟩
  | true =>
      rw [onRound_closes collects, ← (gather_collects collects source handles).entries] at reported
      cases generated : Code.generate (processor.gather source handles).accumulator.entries
          processor.config with
      | error abort =>
          rw [generated] at reported
          cases reported
      | ok generation =>
          rw [generated] at reported
          cases reported
          exact ⟨remarks, generation.failures, .closing remarked generated⟩

/-- A source of points like `flawedPoints` without its first one. -/
def shiftedPoints : Source Nat :=
  .ofDescriptions fun handle => flawedPoints.describe (handle + 1)

/-- A point that is recorded again with a field that cannot be named, and a handle that has
nothing under it. -/
theorem onRound_account_shiftedPoints :
    let fresh : Processor Nat Output.Memory := .new .empty {}
    let processor := fresh.gather flawedPoints [0]
    Reachable processor ∧ processor.accumulator.phase = .collecting ∧
      ∃ report, processor.onRound shiftedPoints [0, 1] true = .ok report ∧
        report.diagnostics.all.map (·.severity) = [.warning, .fatal, .fatal] ∧
        ∃ remarks failures,
          Account processor shiftedPoints [0, 1] true report remarks failures := by
  intro fresh processor
  have fresh_collects : fresh.accumulator.Collects [] := .empty
  have reachable : Reachable processor :=
    .round (.new Output.Memory.empty {}) (onRound_gathers fresh_collects flawedPoints [0])
  have collects := gather_collects fresh_collects flawedPoints [0]
  let tally := Tally.ofRound shiftedPoints (Tally.ofRound flawedPoints [] [0]).declarations [0, 1]
  have failures : (Code.generate tally.declarations {}).toOption.map
      (fun generation => generation.failures.map (·.diagnostic.severity)) = some [.fatal] := by
    decide +kernel
  obtain ⟨generation, generated, severities⟩ := Extraction.toOption_map_eq_some failures
  have reported : processor.onRound shiftedPoints [0, 1] true =
      .ok ((processor.gather shiftedPoints [0, 1]).close tally.diagnostics tally.outcome
        generation) := by
    rw [onRound_closes collects]
    exact congrArg (Except.map _) generated
  refine ⟨reachable, collects.phase, _, reported, ?_,
    reachable.onRound_account collects.phase reported⟩
  have told : tally.diagnostics.all.map (·.severity) = [.warning, .fatal] := by
    decide
  rw [close_diagnostics, Diagnostics.reportAll, List.map_append, told, List.map_map]
  exact congrArg (_ ++ ·) severities

end Processor

end RecordDerive
