import RecordDerive.Proofs.Round.Session

/-!
# How a run ends

A run collects until its first final round.  That round writes what is generated, up
to the first file that is refused, and after it every round is turned away and changes
nothing.  What a writer is handed is kept by a recording writer, in front of which a
run goes as it would without.
-/

namespace RecordDerive

open Code (Abort Artifact Generation)
open Output (Writer WriteFault deliver)
open Text (FilePath)

/-! ## Recording writers -/

namespace Output

/-- A writer with the files it was handed, whether or not it took them. -/
structure Recording (W : Type) where
  inner : W
  handed : List Artifact

/-- A writer that was handed nothing. -/
def Recording.of {W : Type} (writer : W) : Recording W := ⟨writer, []⟩

variable {W : Type} [Writer W]

instance : Writer (Recording W) where
  write file writer :=
    let (answer, inner) := Writer.write file writer.inner
    (answer, ⟨inner, writer.handed ++ [file]⟩)

theorem Recording.write_eq {file : Artifact} {writer : Recording W}
    {answer : Except WriteFault FilePath} {inner : W}
    (attempt : Writer.write file writer.inner = (answer, inner)) :
    Writer.write file writer = (answer, (⟨inner, writer.handed ++ [file]⟩ : Recording W)) := by
  show (let (answer, inner) := Writer.write file writer.inner; (answer, Recording.mk inner _)) = _
  rw [attempt]

/-- Files that a writer takes one after the other, and what it becomes. -/
inductive Accepted : W → List Artifact → List FilePath → W → Prop
  | nil (writer : W) : Accepted writer [] [] writer
  | cons {writer next reached : W} {file : Artifact} {path : FilePath}
      {files : List Artifact} {paths : List FilePath}
      (taken : Writer.write file writer = (.ok path, next))
      (later : Accepted next files paths reached) :
      Accepted writer (file :: files) (path :: paths) reached

/-- A delivery ends with all files taken, or with the first one that is refused. -/
theorem deliver_cases (files : List Artifact) (writer : W) :
    (∃ paths reached, deliver files writer = (.ok paths, reached) ∧
      Accepted writer files paths reached) ∨
    (∃ fault reached accepted refused rest paths before,
      deliver files writer = (.error fault, reached) ∧ files = accepted ++ refused :: rest ∧
      Accepted writer accepted paths before ∧
      Writer.write refused before = (.error fault, reached)) := by
  induction files generalizing writer with
  | nil => exact .inl ⟨[], writer, rfl, .nil writer⟩
  | cons file files ih =>
      rw [deliver]
      rcases attempt : Writer.write file writer with ⟨answer, next⟩
      cases answer with
      | error fault =>
          exact .inr ⟨fault, next, [], file, files, [], writer, rfl, rfl, .nil writer, attempt⟩
      | ok path =>
          dsimp only
          rcases ih next with ⟨paths, reached, delivered, later⟩ |
            ⟨fault, reached, accepted, refused, rest, paths, before, delivered, split, taken, stop⟩
          · rw [delivered]
            exact .inl ⟨path :: paths, reached, rfl, .cons attempt later⟩
          · rw [delivered]
            exact .inr ⟨fault, reached, file :: accepted, refused, rest, path :: paths, before,
              rfl, congrArg (file :: ·) split, .cons attempt taken, stop⟩

/-- Recording does not change what is taken, and keeps it. -/
theorem Accepted.recorded {writer reached : Recording W} {files : List Artifact}
    {paths : List FilePath} (accepted : Accepted writer files paths reached) :
    Accepted writer.inner files paths reached.inner ∧
      reached.handed = writer.handed ++ files := by
  induction accepted with
  | nil writer => exact ⟨.nil writer.inner, (List.append_nil _).symm⟩
  | @cons writer next reached file path files paths taken later ih =>
      rcases attempt : Writer.write file writer.inner with ⟨answer, inner⟩
      rw [Recording.write_eq attempt] at taken
      cases taken
      refine ⟨.cons attempt ih.1, ?_⟩
      rw [ih.2, List.append_assoc]
      rfl

theorem deliver_recording (files : List Artifact) (writer : Recording W) :
    (deliver files writer).1 = (deliver files writer.inner).1 ∧
      (deliver files writer).2.inner = (deliver files writer.inner).2 := by
  induction files generalizing writer with
  | nil => exact ⟨rfl, rfl⟩
  | cons file files ih =>
      rw [deliver, deliver]
      rcases attempt : Writer.write file writer.inner with ⟨answer, inner⟩
      rw [Recording.write_eq attempt]
      cases answer with
      | error fault => exact ⟨rfl, rfl⟩
      | ok path =>
          obtain ⟨sameAnswer, sameWriter⟩ := ih ⟨inner, writer.handed ++ [file]⟩
          exact ⟨congrArg (Except.map (path :: ·)) sameAnswer, sameWriter⟩

end Output

open Output (Recording Accepted)

variable {H W : Type} [DecidableEq H] [Hashable H] [Writer W]

namespace Processor

/-! ## Ends of a run -/

/-- Without collection, a run goes nowhere. -/
theorem follow_of_closed {processor : Processor H W}
    (closed : processor.accumulator.phase ≠ .collecting) (visits : List (Visit H)) :
    processor.follow visits = .ok (List.replicate visits.length processor.turnAway, processor) := by
  induction visits with
  | nil => rfl
  | cons visit visits ih =>
      have next : processor.turnAway.processor.follow visits = _ := ih
      rw [follow_cons (onRound_of_closed closed _ _ _), next]
      rfl

theorem close_closed (processor : Processor H W) (diagnostics : Diagnostics) (outcome : Outcome)
    (generation : Generation) :
    (processor.close diagnostics outcome generation).processor.accumulator.phase ≠
      .collecting := by
  rw [close]
  rcases deliver generation.artifacts processor.writer with ⟨paths, writer⟩
  cases paths with
  | error fault => nofun
  | ok paths => nofun

/-- A final round is the last one that does anything. -/
theorem follow_closes {processor : Processor H W} {declarations : List (Declaration H)}
    (collects : processor.accumulator.Collects declarations) {visit : Visit H}
    (final : visit.isFinal = true) (visits : List (Visit H)) :
    processor.follow (visit :: visits) =
      (processor.onRound visit.source visit.handles true).map fun report =>
        (report :: List.replicate visits.length report.processor.turnAway, report.processor) := by
  have closes := onRound_closes (W := W) collects visit.source visit.handles
  cases generated : Code.generate
      (Tally.ofRound visit.source declarations visit.handles).declarations processor.config with
  | error abort =>
      rw [generated] at closes
      rw [follow, final, closes]
      rfl
  | ok generation =>
      rw [generated, ← final] at closes
      rw [follow_cons closes, follow_of_closed (close_closed _ _ _ _), ← final, closes]
      rfl

/-! ## Recorded runs -/

/-- The processor whose writer was recorded. -/
def plain (processor : Processor H (Recording W)) : Processor H W :=
  ⟨processor.writer.inner, processor.config, processor.accumulator, processor.rounds⟩

/-- The report of a round whose writer was recorded. -/
def Report.plain (report : Report H (Recording W)) : Report H W :=
  ⟨report.processor.plain, report.diagnostics, report.outcome⟩

theorem close_plain (processor : Processor H (Recording W)) (diagnostics : Diagnostics)
    (outcome : Outcome) (generation : Generation) :
    (processor.close diagnostics outcome generation).plain =
      processor.plain.close diagnostics outcome generation := by
  obtain ⟨sameAnswer, sameWriter⟩ :=
    Output.deliver_recording generation.artifacts processor.writer
  rw [close, close, plain]
  rcases delivered : deliver generation.artifacts processor.writer with ⟨paths, writer⟩
  rcases delivered' : deliver generation.artifacts processor.writer.inner with ⟨paths', writer'⟩
  rw [delivered, delivered'] at sameAnswer sameWriter
  dsimp only at sameAnswer sameWriter ⊢
  rw [← sameAnswer, ← sameWriter]
  cases paths with
  | error fault => rfl
  | ok paths => rfl

/-- A run goes as it would without the recording. -/
theorem follow_plain (visits : List (Visit H)) {processor : Processor H (Recording W)}
    {declarations : List (Declaration H)}
    (collects : processor.accumulator.Collects declarations) :
    (processor.follow visits).map (fun run => (run.1.map Report.plain, run.2.plain)) =
      processor.plain.follow visits := by
  induction visits generalizing processor declarations with
  | nil => rfl
  | cons visit visits ih =>
      have collects' : processor.plain.accumulator.Collects declarations := collects
      cases final : visit.isFinal with
      | false =>
          have first := onRound_gathers (W := Recording W) collects visit.source visit.handles
          have first' := onRound_gathers (W := W) collects' visit.source visit.handles
          rw [← final] at first first'
          have later := ih (gather_collects collects visit.source visit.handles)
          have same : (processor.gather visit.source visit.handles).plain =
            processor.plain.gather visit.source visit.handles := rfl
          rw [follow_cons first, follow_cons first', ← same, ← later]
          cases (processor.gather visit.source visit.handles).follow visits with
          | error abort => rfl
          | ok run => rfl
      | true =>
          rw [follow_closes collects final, follow_closes collects' final,
            onRound_closes collects, onRound_closes collects']
          have same : processor.plain.config = processor.config := rfl
          rw [same]
          cases Code.generate (Tally.ofRound visit.source declarations visit.handles).declarations
              processor.config with
          | error abort => rfl
          | ok generation =>
              have closed := close_plain (processor.gather visit.source visit.handles)
                (Tally.ofRound visit.source declarations visit.handles).diagnostics
                (Tally.ofRound visit.source declarations visit.handles).outcome generation
              have same : (processor.gather visit.source visit.handles).plain =
                processor.plain.gather visit.source visit.handles := rfl
              rw [same] at closed
              simp only [Except.map, List.map_cons, List.map_replicate, ← closed]
              rfl

/-! ## The course of a run -/

/-- A round that collected and handed nothing to the writer. -/
structure Collected (before : Processor H (Recording W)) (report : Report H (Recording W)) :
    Prop where
  writer : report.processor.writer = before.writer
  phase : report.processor.accumulator.phase = .collecting
  rounds : report.processor.rounds = before.rounds + 1
  succeeded : ∃ outcome, report.outcome = .ok outcome ∧ outcome.generated = none

/-- How a round ends that has some files for the writer: either all of them are
taken, or they are handed over up to the first one that is refused. -/
inductive Ended (writer : Recording W) (files : List Artifact) (report : Report H (Recording W)) :
    Prop
  | done {paths : List FilePath} {outcome : Outcome}
      (accepted : Accepted writer.inner files paths report.processor.writer.inner)
      (handed : report.processor.writer.handed = writer.handed ++ files)
      (phase : report.processor.accumulator.phase = .done)
      (succeeded : report.outcome = .ok outcome)
      (generated : outcome.generated = some paths)
  | refused {accepted rest : List Artifact} {refused : Artifact} {paths : List FilePath}
      {before : W} {fault : WriteFault}
      (split : files = accepted ++ refused :: rest)
      (taken : Accepted writer.inner accepted paths before)
      (refusal : Writer.write refused before = (.error fault, report.processor.writer.inner))
      (handed : report.processor.writer.handed = writer.handed ++ (accepted ++ [refused]))
      (phase : report.processor.accumulator.phase = .finalizing)
      (failed : report.outcome = .error (.write fault))

/-- A final round: it collects as one that is not final, and hands over what is
generated from all that is collected, which it keeps. -/
inductive Closed (before : Processor H (Recording W)) (visit : Visit H)
    (report : Report H (Recording W)) : Prop
  | intro {gathered : Processor H (Recording W)} {diagnostics : Diagnostics} {outcome : Outcome}
      {generation : Generation}
      (gathers : before.onRound visit.source visit.handles false =
        .ok ⟨gathered, diagnostics, .ok outcome⟩)
      (generated : Code.generate gathered.accumulator.snapshot before.config = .ok generation)
      (kept : report.processor.accumulator.entries = gathered.accumulator.entries)
      (ended : Ended before.writer generation.artifacts report)

/-- A run: rounds that collect, up to a final one, and rounds that are turned away. -/
inductive Course : Processor H (Recording W) → List (Visit H) → List (Report H (Recording W)) →
    Prop
  | nil (processor : Processor H (Recording W)) : Course processor [] []
  | collect {processor : Processor H (Recording W)} {visit : Visit H} {visits : List (Visit H)}
      {report : Report H (Recording W)} {reports : List (Report H (Recording W))}
      (notFinal : visit.isFinal = false) (collected : Collected processor report)
      (later : Course report.processor visits reports) :
      Course processor (visit :: visits) (report :: reports)
  | close {processor : Processor H (Recording W)} {visit : Visit H} {visits : List (Visit H)}
      {report : Report H (Recording W)}
      (final : visit.isFinal = true) (closed : Closed processor visit report) :
      Course processor (visit :: visits)
        (report :: List.replicate visits.length report.processor.turnAway)

theorem close_ended (processor : Processor H (Recording W)) (diagnostics : Diagnostics)
    (outcome : Outcome) (generation : Generation) :
    Ended processor.writer generation.artifacts
      (processor.close diagnostics outcome generation) := by
  rw [close]
  rcases Output.deliver_cases generation.artifacts processor.writer with
    ⟨paths, reached, delivered, accepted⟩ |
    ⟨fault, reached, accepted, refused, rest, paths, before, delivered, split, taken, stop⟩
  · obtain ⟨accepted, handed⟩ := accepted.recorded
    rw [delivered]
    exact .done accepted handed rfl rfl rfl
  · obtain ⟨taken, handed⟩ := taken.recorded
    rcases attempt : Writer.write refused before.inner with ⟨answer, inner⟩
    rw [Recording.write_eq attempt] at stop
    cases stop
    rw [delivered]
    refine .refused split taken attempt ?_ rfl rfl
    rw [← List.append_assoc, ← handed]

theorem close_entries (processor : Processor H W) (diagnostics : Diagnostics) (outcome : Outcome)
    (generation : Generation) :
    (processor.close diagnostics outcome generation).processor.accumulator.entries =
      processor.accumulator.entries := by
  rw [close]
  rcases deliver generation.artifacts processor.writer with ⟨paths, writer⟩
  cases paths with
  | error fault => rfl
  | ok paths => rfl

/-- No round fails other than by a refused write or by coming too late. -/
theorem Course.violation {processor : Processor H (Recording W)} {visits : List (Visit H)}
    {reports : List (Report H (Recording W))} (course : Course processor visits reports)
    {report : Report H (Recording W)} (member : report ∈ reports) {violation : Violation}
    (failed : report.outcome = .error (.invariant violation)) :
    violation = .roundAfterDone ∨ violation = .roundDuringFinalize := by
  induction course with
  | nil processor => cases member
  | collect notFinal collected later ih =>
      rcases List.mem_cons.mp member with rfl | member
      · obtain ⟨outcome, succeeded, -⟩ := collected.succeeded
        cases succeeded.symm.trans failed
      · exact ih member
  | close final closed =>
      rcases List.mem_cons.mp member with rfl | member
      · obtain ⟨-, -, -, ended⟩ := closed
        cases ended with
        | done _ _ _ succeeded _ => cases succeeded.symm.trans failed
        | refused _ _ _ _ _ refused => cases refused.symm.trans failed
      -- All that comes after the end is turned away.
      · rw [List.eq_of_mem_replicate member, turnAway] at failed
        injection failed with failed
        injection failed with same
        rw [← same]
        split
        next done => exact .inl rfl
        next other => exact .inr rfl

/-- Where no rendering aborts, a collecting processor goes through such a course. -/
theorem follow_course (visits : List (Visit H)) {processor : Processor H (Recording W)}
    {declarations : List (Declaration H)}
    (collects : processor.accumulator.Collects declarations) :
    (∀ reports reached, processor.follow visits = .ok (reports, reached) →
      Course processor visits reports) ∧
    (∀ abort, processor.follow visits = .error abort →
      ∃ declarations : List (Declaration H),
        Code.generate declarations processor.config = .error abort) := by
  induction visits generalizing processor declarations with
  | nil =>
      constructor
      · intro reports reached followed
        cases followed
        exact .nil _
      · intro abort followed
        cases followed
  | cons visit visits ih =>
      have gathers := onRound_gathers (W := Recording W) collects visit.source visit.handles
      have collects' := gather_collects collects visit.source visit.handles
      cases final : visit.isFinal with
      | false =>
          obtain ⟨course, aborts⟩ := ih collects'
          have first := gathers
          rw [← final] at first
          rw [follow_cons first]
          dsimp only
          cases later : (processor.gather visit.source visit.handles).follow visits with
          | error abort =>
              constructor
              · intro reports reached followed
                cases followed
              · intro abort' followed
                cases followed
                exact aborts abort later
          | ok run =>
              constructor
              · intro reports reached followed
                cases followed
                refine .collect final ⟨rfl, collects'.phase, rfl, _, rfl, ?_⟩
                  (course run.1 run.2 later)
                exact Tally.generated_foldl visit.source visit.handles _
              · intro abort followed
                cases followed
      | true =>
          rw [follow_closes collects final, onRound_closes collects]
          cases generated : Code.generate
              (Tally.ofRound visit.source declarations visit.handles).declarations
              processor.config with
          | error abort =>
              constructor
              · intro reports reached followed
                cases followed
              · intro abort' followed
                cases followed
                exact ⟨_, generated⟩
          | ok generation =>
              constructor
              · intro reports reached followed
                cases followed
                have ended := close_ended (processor.gather visit.source visit.handles)
                  (Tally.ofRound visit.source declarations visit.handles).diagnostics
                  (Tally.ofRound visit.source declarations visit.handles).outcome generation
                refine .close final (.intro gathers ?_ (close_entries _ _ _ _) ended)
                rw [Accumulator.snapshot, collects'.entries]
                exact generated
              · intro abort followed
                cases followed

/-- A run of a fresh processor, whose writer is recorded without the run taking notice.
Unless a rendering aborts, the run collects up to its first final round, which hands the
generated files to the writer up to the first that is refused, and turns away all rounds
after it; and no other operation is ever out of phase. -/
theorem follow_lifecycle (writer : W) (config : Config) (visits : List (Visit H)) :
    let fresh : Processor H (Recording W) := .new (.of writer) config
    (fresh.follow visits).map (fun run => (run.1.map Report.plain, run.2.plain)) =
      (Processor.new writer config).follow visits ∧
    (∀ reports reached, fresh.follow visits = .ok (reports, reached) →
      Course fresh visits reports ∧
      ∀ report ∈ reports, ∀ violation, report.outcome = .error (.invariant violation) →
        violation = .roundAfterDone ∨ violation = .roundDuringFinalize) ∧
    (∀ abort, fresh.follow visits = .error abort →
      ∃ declarations : List (Declaration H), Code.generate declarations config = .error abort) := by
  intro fresh
  have collects : fresh.accumulator.Collects [] := .empty
  obtain ⟨course, aborts⟩ := follow_course visits collects
  refine ⟨follow_plain visits collects, ?_, aborts⟩
  intro reports reached followed
  have followed := course reports reached followed
  exact ⟨followed, fun _ member _ => followed.violation member⟩

end Processor

end RecordDerive
