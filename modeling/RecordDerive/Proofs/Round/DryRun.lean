import RecordDerive.Proofs.Output.Delivery

/-!
# Dry runs

What the rounds of a run report depends on its writer only by where the files went.  A
memory takes all files that are generated, and so does a file system below a root where
nothing stands.  So a run with a memory shows what one with a file system will do.
-/

namespace RecordDerive

open Code (Generation)
open Output (Disk DiskWriter Memory Writer deliver)
open Text (FilePath)

variable {H : Type} [DecidableEq H]

/-! ## What is reported -/

/-- The declarations that some rounds gather. -/
def Tally.gathered (rounds : List (Source H × List H)) (declarations : List (Declaration H)) :
    List (Declaration H) :=
  rounds.foldl (fun before round => (ofRound round.1 before round.2).declarations) declarations

/-- The diagnostics and outcome of a round. -/
structure Answer where
  diagnostics : Diagnostics
  outcome : Except RoundFault Outcome

/-- The outcome with its files below a root. -/
def Outcome.below (root : FilePath) (outcome : Outcome) : Outcome :=
  { outcome with generated := outcome.generated.map (·.map root.join) }

theorem Outcome.below_of_unfinished (root : FilePath) {outcome : Outcome}
    (unfinished : outcome.generated = none) : outcome.below root = outcome := by
  rw [below, unfinished, Option.map_none, ← unfinished]

/-- The answer with its files below a root. -/
def Answer.below (root : FilePath) (answer : Answer) : Answer :=
  { answer with outcome := answer.outcome.map (·.below root) }

/-- The answer of a round that leaves declarations to be collected by later ones. -/
def Tally.answer (tally : Tally H) : Answer := ⟨tally.diagnostics, .ok tally.outcome⟩

/-- The answer of the round that generates from all of them. -/
def Tally.lastAnswer (tally : Tally H) (generation : Generation) (paths : List FilePath) :
    Answer where
  diagnostics := tally.diagnostics.reportAll (generation.failures.map (·.diagnostic))
  outcome := .ok { tally.outcome with
    failed := tally.outcome.failed + generation.failures.length
    generated := some paths }

/-- The answers of some rounds and a final one, whose files went to some paths. -/
def Tally.answers (source : Source H) (handles : List H) (generation : Generation)
    (paths : List FilePath) : List (Source H × List H) → List (Declaration H) → List Answer
  | [], declarations =>
      [(ofRound source declarations handles).lastAnswer generation paths]
  | round :: rounds, declarations =>
      let tally := ofRound round.1 declarations round.2
      tally.answer :: answers source handles generation paths rounds tally.declarations

theorem Tally.answers_below (source : Source H) (handles : List H) (generation : Generation)
    (paths : List FilePath) (root : FilePath) (rounds : List (Source H × List H))
    (declarations : List (Declaration H)) :
    answers source handles generation (paths.map root.join) rounds declarations =
      (answers source handles generation paths rounds declarations).map (·.below root) := by
  induction rounds generalizing declarations with
  | nil => rfl
  | cons round rounds ih =>
      have unfinished : (ofRound round.1 declarations round.2).outcome.generated = none :=
        generated_foldl round.1 round.2 _
      have same : (ofRound round.1 declarations round.2).answer.below root =
          (ofRound round.1 declarations round.2).answer := by
        rw [Answer.below, answer, Except.map, Outcome.below_of_unfinished root unfinished]
      rw [answers, answers, List.map_cons, same, ih]

theorem Tally.answers_succeed {source : Source H} {handles : List H} {generation : Generation}
    {paths : List FilePath} {rounds : List (Source H × List H)}
    {declarations : List (Declaration H)} {answer : Answer}
    (member : answer ∈ answers source handles generation paths rounds declarations) :
    ∃ outcome, answer.outcome = .ok outcome := by
  induction rounds generalizing declarations with
  | nil =>
      rw [List.mem_singleton.mp member]
      exact ⟨_, rfl⟩
  | cons round rounds ih =>
      rcases List.mem_cons.mp member with rfl | later
      · exact ⟨_, rfl⟩
      · exact ih later

variable [Hashable H] {W : Type}

/-- Visits of which only the last is final. -/
def Visit.closing (rounds : List (Source H × List H)) (source : Source H) (handles : List H) :
    List (Visit H) :=
  rounds.map (fun round => .gathering round.1 round.2) ++ [⟨source, handles, true⟩]

namespace Processor

def Report.answer (report : Report H W) : Answer := ⟨report.diagnostics, report.outcome⟩

variable [Writer W]

/-- A run whose files are all taken. -/
theorem follow_closing (rounds : List (Source H × List H)) (source : Source H)
    (handles : List H) {processor : Processor H W} {declarations : List (Declaration H)}
    (collects : processor.accumulator.Collects declarations) {generation : Generation}
    (generated : Code.generate (Tally.gathered (rounds ++ [(source, handles)]) declarations)
      processor.config = .ok generation)
    {paths : List FilePath} {writer : W}
    (delivered : deliver generation.artifacts processor.writer = (.ok paths, writer)) :
    ∃ reports reached,
      processor.follow (Visit.closing rounds source handles) = .ok (reports, reached) ∧
      reports.map Report.answer =
        Tally.answers source handles generation paths rounds declarations ∧
      reached.accumulator.snapshot =
        Tally.gathered (rounds ++ [(source, handles)]) declarations ∧
      reached.writer = writer ∧ reached.accumulator.phase = .done := by
  induction rounds generalizing processor declarations with
  | nil =>
      have closes := onRound_closes (W := W) collects source handles
      have generated : Code.generate (Tally.ofRound source declarations handles).declarations
        processor.config = .ok generation := generated
      rw [generated] at closes
      have closed := @follow_cons H W _ _ _ processor ⟨source, handles, true⟩ _ closes []
      refine ⟨_, _, closed, ?_⟩
      have delivered : deliver generation.artifacts (processor.gather source handles).writer =
        (.ok paths, writer) := delivered
      rw [List.map_singleton, close, delivered]
      exact ⟨rfl, (gather_collects collects source handles).entries, rfl, rfl⟩
  | cons round rounds ih =>
      have gathers := onRound_gathers (W := W) collects round.1 round.2
      obtain ⟨reports, reached, followed, answers, ended⟩ :=
        ih (gather_collects collects round.1 round.2) generated delivered
      have whole := @follow_cons H W _ _ _ processor (.gathering round.1 round.2) _ gathers
        (Visit.closing rounds source handles)
      dsimp only at whole
      rw [followed] at whole
      refine ⟨_, reached, whole, ?_, ended⟩
      rw [List.map_cons, answers]
      rfl

end Processor

/-! ## Dry and real runs -/

/-- A file system that has room for some files: the root can be a directory, nothing stands
below it, and files are refused only where something stands in their way. -/
structure Output.Disk.Ready (disk : Disk) (root : FilePath) (files : List Code.Artifact) : Prop where
  possible : (disk.createDirectories root).1 = .ok ()
  bare : ∀ rest, rest ≠ [] → disk.node? (root.places ++ rest) = none
  refuses : ∀ file ∈ files, Disk.RefusesOnlyClashes (root.join file.target)

namespace Processor

/-- A run did below a root what a dry run showed. -/
structure Realizes (root : FilePath) (dryReports : List (Report H Memory))
    (dryReached : Processor H Memory) (reports : List (Report H DiskWriter))
    (reached : Processor H DiskWriter) : Prop where
  answers : reports.map Report.answer = (dryReports.map Report.answer).map (·.below root)
  done : reached.accumulator.phase = .done
  files : ∀ rest contents,
    reached.writer.disk.node? (root.places ++ rest) = some (.file contents) ↔
      ∃ file ∈ dryReached.writer.files, file.target.components = rest ∧ file.contents = contents

/-- Where no rendering aborts, a run with a fresh memory succeeds in every round and keeps
one file for each that is generated.  A run with a file system that has room for them
does the same below its root. -/
theorem follow_dry (config : Config) (rounds : List (Source H × List H)) (source : Source H)
    (handles : List H)
    (rendered : ∀ declaration ∈ Tally.gathered (rounds ++ [(source, handles)]) [], ∀ abort,
      Code.render declaration config ≠ .error (.aborted abort)) :
    ∃ generation dryReports dryReached,
      Code.generate (Tally.gathered (rounds ++ [(source, handles)]) []) config =
        .ok generation ∧
      (Processor.new Memory.empty config).follow (Visit.closing rounds source handles) =
        .ok (dryReports, dryReached) ∧
      (∀ report ∈ dryReports, ∃ outcome, report.outcome = .ok outcome) ∧
      dryReached.accumulator.snapshot = Tally.gathered (rounds ++ [(source, handles)]) [] ∧
      dryReached.accumulator.phase = .done ∧
      dryReached.writer.files.Perm generation.artifacts ∧
      ∀ disk : Disk, disk.Ready config.outputRoot generation.artifacts →
        ∃ reports reached,
          (Processor.new (DiskWriter.new config.outputRoot disk) config).follow
            (Visit.closing rounds source handles) = .ok (reports, reached) ∧
          Realizes config.outputRoot dryReports dryReached reports reached := by
  obtain ⟨generation, generated⟩ := Code.exists_generation rendered
  have apart : Code.Apart ([] ++ generation.artifacts) := Code.apart_of_generate generated
  obtain ⟨memory, taken, kept⟩ :=
    @Memory.deliver_apart generation.artifacts [] .empty (.refl _) apart
  obtain ⟨dryReports, dryReached, dry, dryAnswers, gathered, rfl, done⟩ :=
    @follow_closing H _ _ _ _ rounds source handles (.new Memory.empty config) [] .empty _
      generated _ _ taken
  refine ⟨generation, dryReports, dryReached, generated, dry, ?_, gathered, done, kept, ?_⟩
  · intro report member
    have listed := List.mem_map_of_mem (f := Report.answer) member
    rw [dryAnswers] at listed
    exact Tally.answers_succeed listed
  · intro disk ready
    have bare : (DiskWriter.new config.outputRoot disk).Kept [] :=
      ⟨Disk.holds_nil ready.bare ready.possible, nofun⟩
    obtain ⟨writer, written, holds⟩ := DiskWriter.deliver_apart bare apart ready.refuses
    obtain ⟨reports, reached, real, answers, _, rfl, realDone⟩ :=
      @follow_closing H _ _ _ _ rounds source handles
        (.new (DiskWriter.new config.outputRoot disk) config) [] .empty _ generated _ _ written
    refine ⟨reports, reached, real, ?_, realDone, ?_⟩
    · rw [answers, dryAnswers]
      exact Tally.answers_below source handles generation _ _ rounds []
    · intro rest contents
      have same (file : Code.Artifact) :
          file ∈ dryReached.writer.files ↔ file ∈ generation.artifacts := kept.mem_iff
      simp only [same]
      exact holds.exactly rest contents

/-! ### One file -/

/-- A source that knows a point under its first handle only. -/
def onePoint : Source Nat :=
  .ofDescriptions fun handle =>
    if handle = 0 then
      .ok ⟨1, .struct, .product, [⟨true, [⟨2, .ofClass 2⟩]⟩], ⟨["geo", "Point", "x", "i32"],
        [⟨none, 0, .package⟩, ⟨some 0, 1, .type⟩, ⟨none, 3, .type⟩]⟩⟩
    else .error (.missing (toString handle))

theorem gathered_onePoint : Tally.gathered [(onePoint, [0]), (onePoint, [1])] [] =
    [⟨0, "geo", "Point", [⟨"x", "i32"⟩]⟩] := by decide

theorem targets_onePoint :
    (Code.generate (Tally.gathered [(onePoint, [0]), (onePoint, [1])] []) {}).toOption.map
      (·.artifacts.map (·.target)) = some [⟨"geo/Point.rs"⟩] := by decide +kernel

theorem ready_onePoint {generation : Generation}
    (generated : Code.generate (Tally.gathered [(onePoint, [0]), (onePoint, [1])] []) {} =
      .ok generation) : Disk.empty.Ready defaultOutputRoot generation.artifacts where
  possible := by
    have possible : Disk.pathFault? defaultOutputRoot = none :=
      Disk.pathFault?_eq_none.mpr ⟨by decide, by decide⟩
    rw [Disk.createDirectories, possible]
    rfl
  bare := by
    intro rest some
    simp [Disk.node?, Disk.empty, some]
  refuses := by
    intro file member
    have targets := targets_onePoint
    rw [generated] at targets
    have targets : generation.artifacts.map (·.target) = [⟨"geo/Point.rs"⟩] :=
      Option.some.inj targets
    have target : file.target = ⟨"geo/Point.rs"⟩ := by
      have listed : file.target ∈ generation.artifacts.map (·.target) :=
        List.mem_map_of_mem member
      rw [targets] at listed
      exact List.mem_singleton.mp listed
    have path : defaultOutputRoot.join file.target = ⟨"target/prodgen/geo/Point.rs"⟩ := by
      rw [target]
      decide
    have above : FilePath.parent ⟨"target/prodgen/geo/Point.rs"⟩ = ⟨"target/prodgen/geo"⟩ := by
      decide
    have leads : Disk.LeadsTo ⟨"target/prodgen/geo/Point.rs"⟩ ["target", "prodgen", "geo"]
        "Point.rs" := ⟨by decide, by decide, by decide⟩
    rw [path, Disk.refusesOnlyClashes_iff leads]
    refine ⟨?_, Disk.pathFault?_eq_none.mpr ⟨by decide, by decide⟩, by decide⟩
    rw [above]
    exact Disk.pathFault?_eq_none.mpr ⟨by decide, by decide⟩

theorem follow_dry_onePoint :
    let config : Config := {}
    let visits := Visit.closing [(onePoint, [0])] onePoint [1]
    (∀ declaration ∈ Tally.gathered [(onePoint, [0]), (onePoint, [1])] [], ∀ abort,
      Code.render declaration config ≠ .error (.aborted abort)) ∧
    ∃ (generation : Generation) (dryReports : List (Report Nat Memory))
      (dryReached : Processor Nat Memory) (reports : List (Report Nat DiskWriter))
      (reached : Processor Nat DiskWriter),
      (Processor.new Memory.empty config).follow visits = .ok (dryReports, dryReached) ∧
      dryReached.writer.files.Perm generation.artifacts ∧
      Disk.empty.Ready config.outputRoot generation.artifacts ∧
      (Processor.new (DiskWriter.new config.outputRoot .empty) config).follow visits =
        .ok (reports, reached) ∧
      Realizes config.outputRoot dryReports dryReached reports reached := by
  intro config visits
  have rendered : ∀ declaration ∈ Tally.gathered [(onePoint, [0]), (onePoint, [1])] [], ∀ abort,
      Code.render declaration config ≠ .error (.aborted abort) := by
    intro declaration member abort aborted
    rw [gathered_onePoint, List.mem_singleton] at member
    have succeeded : (Code.render declaration config).toOption.isSome = true := by
      rw [member]
      decide +kernel
    rw [aborted] at succeeded
    cases succeeded
  obtain ⟨generation, dryReports, dryReached, generated, dry, _, _, _, files, real⟩ :=
    follow_dry config [(onePoint, [0])] onePoint [1] rendered
  have ready := ready_onePoint generated
  obtain ⟨reports, reached, followed, realizes⟩ := real .empty ready
  exact ⟨rendered, generation, dryReports, dryReached, reports, reached, dry, files, ready,
    followed, realizes⟩

end Processor

end RecordDerive
