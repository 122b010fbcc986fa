import RecordDerive.Proofs.Round.Insertion
import Mathlib.Control.Monad.Basic

/-!
# Broken declarations beside others

A run is compared with one that also presents a handle whose declaration is broken: it is not
accepted, or it has no rendering.  Nothing of it is left in the first case.  In the second it
stands among the recorded declarations, where no other one meets it, until generation passes
over it.  Either way the host is told once, and everything else is as in the run without it.
-/

namespace RecordDerive

open Code (Generation GenerationFault generate render)
open Ledger (handles)
open Output (Writer deliver)

variable {H : Type} [DecidableEq H]

/-! ## Runs -/

/-- The visits of some rounds, of which the last is final. -/
def Visit.toLast (source : Source H) : List (List H) → List (Visit H)
  | [] => []
  | handles :: rounds => ⟨source, handles, rounds.isEmpty⟩ :: toLast source rounds

/-- The answer with some more counted. -/
def Answer.add (counts : Outcome) (answer : Answer) : Answer :=
  { answer with outcome := answer.outcome.map counts.add }

@[simp] theorem Answer.add_zero (answer : Answer) : Answer.add {} answer = answer := by
  obtain ⟨diagnostics, outcome⟩ := answer
  cases outcome with
  | error fault => rfl
  | ok outcome => simp [add, Except.map]

/-- An answer with one more fatal diagnostic, which is counted as a failure. -/
structure Answer.Spoilt (diagnostic : Diagnostic) (answer answer' : Answer) : Prop where
  diagnostics : Inserted [diagnostic] answer.diagnostics.all answer'.diagnostics.all
  outcome : answer'.outcome = answer.outcome.map (Outcome.add { failed := 1 })

variable [Hashable H] {W : Type}

/-- What sets a run apart from one that lacks a handle with a broken declaration: the handle
was recorded so often in the round at `position` and was reported in the one at `spoilt`, and
what is kept for it stands among the entries. -/
structure Processor.Spared (position spoilt count : Nat) (diagnostic : Diagnostic)
    (kept : List (Declaration H)) (run run' : List (Processor.Report H W) × Processor H W) :
    Prop where
  fatal : diagnostic.isFatal = true
  writer : run'.2.writer = run.2.writer
  phase : run'.2.accumulator.phase = run.2.accumulator.phase
  rounds : run'.2.rounds = run.2.rounds
  entries : Inserted kept run.2.accumulator.entries run'.2.accumulator.entries
  artifacts : ∃ generation generation',
    generate run.2.accumulator.entries run.2.config = .ok generation ∧
    generate run'.2.accumulator.entries run'.2.config = .ok generation' ∧
    generation'.artifacts = generation.artifacts
  answers : ∃ before answer answer' after,
    (run.1.map Report.answer).modify position (Answer.add { recorded := count }) =
      before ++ answer :: after ∧
    before.length = spoilt ∧
    run'.1.map Report.answer = before ++ answer' :: after ∧
    answer.Spoilt diagnostic answer'

namespace Processor

variable {position spoilt count : Nat} {diagnostic : Diagnostic} {kept : List (Declaration H)}
  {run run' : List (Report H W) × Processor H W}

namespace Spared

/-- A round that both runs begin with. -/
theorem cons (spared : Spared position spoilt count diagnostic kept run run')
    (report : Report H W) :
    Spared (position + 1) (spoilt + 1) count diagnostic kept (report :: run.1, run.2)
      (report :: run'.1, run'.2) := by
  obtain ⟨before, answer, answer', after, modified, rfl, answers, worse⟩ := spared.answers
  refine { spared with answers := ⟨report.answer :: before, answer, answer', after, ?_, rfl, ?_,
    worse⟩ }
  · simp [modified]
  · simp [answers]

theorem behind (spared : Spared position spoilt count diagnostic kept run run')
    (reports : List (Report H W)) :
    Spared (reports.length + position) (reports.length + spoilt) count diagnostic kept
      (reports ++ run.1, run.2) (reports ++ run'.1, run'.2) := by
  induction reports with
  | nil => simpa using spared
  | cons report reports ih =>
      have longer := ih.cons report
      rw [List.length_cons, Nat.add_right_comm, Nat.add_right_comm _ 1 spoilt]
      exact longer

/-- The round in which the handle is recorded, and which is not the last one. -/
theorem recorded (spared : Spared 0 spoilt 0 diagnostic kept run run') {report report' : Report H W}
    (counted : report'.answer = report.answer.add { recorded := count }) :
    Spared 0 (spoilt + 1) count diagnostic kept (report :: run.1, run.2)
      (report' :: run'.1, run'.2) := by
  obtain ⟨before, answer, answer', after, modified, rfl, answers, worse⟩ := spared.answers
  have same : Answer.add { recorded := 0 } = id := funext Answer.add_zero
  rw [same, List.modify_id] at modified
  refine { spared with answers := ⟨report'.answer :: before, answer, answer', after, ?_, rfl, ?_,
    worse⟩ }
  · simp [modified, counted]
  · simp [answers]

end Spared

variable [Writer W] {processor processor' : Processor H W}

/-- Processors that differ in what they have recorded only. -/
structure Twin (processor processor' : Processor H W) : Prop where
  writer : processor'.writer = processor.writer
  config : processor'.config = processor.config
  rounds : processor'.rounds = processor.rounds

omit [Output.Writer W] in
theorem Twin.gather (twin : Twin processor processor') (source : Source H)
    (presented presented' : List H) :
    Twin (processor.gather source presented) (processor'.gather source presented') :=
  ⟨twin.writer, twin.config, congrArg (· + 1) twin.rounds⟩

theorem close_diagnostics (processor : Processor H W) (diagnostics : Diagnostics)
    (outcome : Outcome) (generation : Generation) :
    (processor.close diagnostics outcome generation).diagnostics =
      diagnostics.reportAll (generation.failures.map (·.diagnostic)) := by
  rw [close]
  rcases deliver generation.artifacts processor.writer with ⟨paths, writer⟩
  cases paths with
  | error fault => rfl
  | ok paths => rfl

theorem close_config (processor : Processor H W) (diagnostics : Diagnostics)
    (outcome : Outcome) (generation : Generation) :
    (processor.close diagnostics outcome generation).processor.config = processor.config := by
  rw [close]
  rcases deliver generation.artifacts processor.writer with ⟨paths, writer⟩
  cases paths with
  | error fault => rfl
  | ok paths => rfl

/-- Closing writes the same beside what is broken, and says so once. -/
theorem close_spared (twin : Twin processor processor') (fatal : diagnostic.isFatal = true)
    (entries : Inserted kept processor.accumulator.entries processor'.accumulator.entries)
    {generation generation' : Generation}
    (generated : generate processor.accumulator.entries processor.config = .ok generation)
    (generated' : generate processor'.accumulator.entries processor'.config = .ok generation')
    (artifacts : generation'.artifacts = generation.artifacts) {tally tally' : Tally H}
    (diagnostics : Inserted [diagnostic]
      (tally.diagnostics.all ++ generation.failures.map (·.diagnostic))
      (tally'.diagnostics.all ++ generation'.failures.map (·.diagnostic)))
    (recorded : tally'.outcome.recorded = count + tally.outcome.recorded)
    (failed : tally'.outcome.failed + generation'.failures.length =
      1 + (tally.outcome.failed + generation.failures.length)) :
    let report := processor.close tally.diagnostics tally.outcome generation
    let report' := processor'.close tally'.diagnostics tally'.outcome generation'
    Spared 0 0 count diagnostic kept ([report], report.processor)
      ([report'], report'.processor) := by
  intro report report'
  have same : report'.processor.writer = report.processor.writer ∧
      report'.processor.accumulator.phase = report.processor.accumulator.phase ∧
      report'.processor.rounds = report.processor.rounds ∧
      report'.outcome = (report.outcome.map (Outcome.add { recorded := count })).map
        (Outcome.add { failed := 1 }) := by
    simp only [report, report', close, artifacts, twin.writer]
    rcases deliver generation.artifacts processor.writer with ⟨paths, writer⟩
    cases paths with
    | error fault => exact ⟨rfl, rfl, twin.rounds, rfl⟩
    | ok paths =>
        refine ⟨rfl, rfl, twin.rounds, ?_⟩
        simp [Except.map, Outcome.add, recorded, failed]
  obtain ⟨writer, phase, rounds, outcome⟩ := same
  refine ⟨fatal, writer, phase, rounds, ?entries, ?artifacts, ?answers⟩
  case entries =>
    rw [close_entries, close_entries]
    exact entries
  case artifacts =>
    refine ⟨generation, generation', ?_, ?_, artifacts⟩
    · rw [close_entries, close_config, generated]
    · rw [close_entries, close_config, generated']
  case answers =>
    refine ⟨[], _, _, [], rfl, rfl, rfl, ?_, outcome⟩
    show Inserted [diagnostic] report.diagnostics.all report'.diagnostics.all
    rw [close_diagnostics, close_diagnostics]
    exact diagnostics

/-! ### Rounds one after the other -/

section Follow

variable {source : Source H} {declarations : List (Declaration H)}

theorem follow_last (collects : processor.accumulator.Collects declarations) {handles : List H}
    {generation : Generation}
    (generated : generate (Tally.ofRound source declarations handles).declarations
      processor.config = .ok generation) :
    let tally := Tally.ofRound source declarations handles
    let report := (processor.gather source handles).close tally.diagnostics tally.outcome generation
    processor.follow (Visit.toLast source [handles]) = .ok ([report], report.processor) := by
  intro tally report
  have closes := onRound_closes (W := W) collects source handles
  rw [generated] at closes
  exact @follow_cons H W _ _ _ processor ⟨source, handles, true⟩ _ closes []

theorem follow_next (collects : processor.accumulator.Collects declarations) (source : Source H)
    (handles : List H) {rounds : List (List H)} (more : rounds ≠ []) :
    let tally := Tally.ofRound source declarations handles
    processor.follow (Visit.toLast source (handles :: rounds)) =
      ((processor.gather source handles).follow (Visit.toLast source rounds)).map fun run =>
        (⟨processor.gather source handles, tally.diagnostics, .ok tally.outcome⟩ :: run.1,
          run.2) := by
  intro tally
  have gathers := onRound_gathers (W := W) collects source handles
  have notLast : rounds.isEmpty = false := by simpa using more
  rw [Visit.toLast, notLast]
  exact @follow_cons H W _ _ _ processor ⟨source, handles, false⟩ _ gathers _

/-- Where something is generated for what is recorded in the end, no round aborts. -/
theorem exists_follow (handles : List H) (later : List (List H))
    (collects : processor.accumulator.Collects declarations) {generation : Generation}
    (generated : generate (Tally.through source (handles :: later) declarations)
      processor.config = .ok generation) :
    ∃ run, processor.follow (Visit.toLast source (handles :: later)) = .ok run ∧
      generate run.2.accumulator.entries run.2.config = .ok generation := by
  induction later generalizing handles processor declarations with
  | nil =>
      refine ⟨_, follow_last collects generated, ?_⟩
      rw [close_entries, close_config, (gather_collects collects source handles).entries]
      exact generated
  | cons next later ih =>
      obtain ⟨run, followed, generated'⟩ :=
        ih next (gather_collects collects source handles) generated
      have whole := follow_next collects source handles (List.cons_ne_nil next later)
      rw [followed] at whole
      exact ⟨_, whole, generated'⟩

/-- The rounds before others. -/
theorem follow_behind (earlier : List (List H))
    (collects : processor.accumulator.Collects declarations) :
    ∃ (reports : List (Report H W)) (between : Processor H W),
      reports.length = earlier.length ∧ between.config = processor.config ∧
      between.accumulator.Collects (Tally.through source earlier declarations) ∧
      ∀ rounds, rounds ≠ [] → processor.follow (Visit.toLast source (earlier ++ rounds)) =
        (between.follow (Visit.toLast source rounds)).map fun run => (reports ++ run.1, run.2) := by
  induction earlier generalizing processor declarations with
  | nil =>
      refine ⟨[], processor, rfl, rfl, collects, ?_⟩
      intro rounds _
      rw [List.nil_append]
      cases processor.follow (Visit.toLast source rounds) with
      | error abort => rfl
      | ok run => rfl
  | cons handles earlier ih =>
      obtain ⟨reports, between, length, config, collects', followed⟩ :=
        ih (gather_collects collects source handles)
      let tally := Tally.ofRound source declarations handles
      refine ⟨⟨processor.gather source handles, tally.diagnostics, .ok tally.outcome⟩ :: reports,
        between, congrArg (· + 1) length, config, collects', ?_⟩
      intro rounds more
      rw [List.cons_append, follow_next collects source handles (by simp [more]),
        followed rounds more]
      cases between.follow (Visit.toLast source rounds) with
      | error abort => rfl
      | ok run => rfl

omit [Output.Writer W] in
/-- A rejected handle leaves a processor as it is. -/
theorem gather_rejected {handle : H} {fault : DeclarationFault}
    (rejected : source.accept handle = .error fault)
    (collects : processor.accumulator.Collects declarations) {before : List H}
    (unknown : handle ∉ handles (Tally.ofRound source declarations before).declarations)
    (after : List H) :
    processor.gather source (before ++ handle :: after) =
      processor.gather source (before ++ after) := by
  have reached := gather_collects collects source before
  rw [← reached.entries] at unknown
  have place : (processor.gather source before).accumulator.positions[handle]? = none := by
    cases place : (processor.gather source before).accumulator.positions[handle]? with
    | none => rfl
    | some position =>
        exact absurd (List.mem_of_getElem? ((reached.indexed.place_iff _ _).mp place)) unknown
  have forgotten : (processor.gather source before).accumulator.forget handle =
      .ok (none, (processor.gather source before).accumulator) := by
    rw [Accumulator.forget, if_neg (not_not_intro reached.phase), place]
  have kept := Accumulator.absorb_error rejected forgotten
  dsimp only [gather] at kept ⊢
  rw [List.foldl_append, List.foldl_cons, kept, ← List.foldl_append]

/-- A run from the round on in which a handle is rejected. -/
theorem follow_rejected {handle : H} {fault : DeclarationFault}
    (rejected : source.accept handle = .error fault)
    (collects : processor.accumulator.Collects declarations) {before : List H}
    (unknown : handle ∉ handles (Tally.ofRound source declarations before).declarations)
    (after : List H) (later : List (List H)) {generation : Generation}
    (generated : generate (Tally.through source ((before ++ after) :: later) declarations)
      processor.config = .ok generation) :
    ∃ run run',
      processor.follow (Visit.toLast source ((before ++ after) :: later)) = .ok run ∧
      processor.follow (Visit.toLast source ((before ++ handle :: after) :: later)) = .ok run' ∧
      Spared 0 0 0 (.fatal fault.declaration fault.message) [] run run' := by
  obtain ⟨same, diagnostics, outcome⟩ := @Tally.ofRound_rejected H _ source handle declarations
    before after fault rejected unknown
  have gathered := gather_rejected rejected collects unknown after
  cases later with
  | nil =>
      have closed := follow_last collects generated
      rw [Tally.through_cons, ← same] at generated
      have closed' := follow_last collects generated
      refine ⟨_, _, closed, closed', ?_⟩
      have entries := (gather_collects collects source (before ++ handle :: after)).entries
      rw [Tally.through_nil, ← entries] at generated
      rw [gathered] at generated ⊢
      refine close_spared ⟨rfl, rfl, rfl⟩ rfl (.nil _) generated generated rfl ?_ ?_ ?_
      · exact diagnostics.append_right _
      · rw [outcome, Outcome.add]
      · rw [outcome, Outcome.add, Nat.add_assoc]
  | cons next later =>
      have more := List.cons_ne_nil next later
      obtain ⟨rest, followed, generated⟩ :=
        exists_follow next later (gather_collects collects source (before ++ after)) generated
      have whole := follow_next collects source (before ++ after) more
      have whole' := follow_next collects source (before ++ handle :: after) more
      rw [gathered, followed] at whole'
      rw [followed] at whole
      refine ⟨_, _, whole, whole', rfl, rfl, rfl, rfl, .nil _,
        ⟨generation, generation, generated, generated, rfl⟩,
        [], _, _, rest.1.map Report.answer, rfl, rfl, rfl, diagnostics, ?_⟩
      rw [outcome]
      simp [Report.answer, Answer.add, Except.map]

/-- A run from the round on in which a handle is recorded whose declaration cannot be
rendered. -/
theorem follow_beside {config : Config} {extra : Declaration H} {failure : GenerationFault}
    (stopped : render extra config = .error (.failed failure)) (later : List (List H))
    {declarations' : List (Declaration H)} {presented presented' : List H}
    (twin : Twin processor processor') (configured : processor.config = config)
    (collects : processor.accumulator.Collects declarations)
    (collects' : processor'.accumulator.Collects declarations')
    (beside : Tally.Beside [extra] count (Tally.ofRound source declarations presented)
      (Tally.ofRound source declarations' presented'))
    (absent : ∀ round ∈ later, extra.handle ∉ round) {generation : Generation}
    (generated : generate (Tally.through source (presented :: later) declarations)
      config = .ok generation) :
    ∃ run run', processor.follow (Visit.toLast source (presented :: later)) = .ok run ∧
      processor'.follow (Visit.toLast source (presented' :: later)) = .ok run' ∧
      Spared 0 later.length count failure.diagnostic [extra] run run' := by
  -- The count is of the round at hand: once the handle is recorded, the rounds that follow
  -- count it no more.
  induction later generalizing processor processor' declarations declarations' presented presented'
    count with
  | nil =>
      obtain ⟨generation', generated', owned, failures⟩ :=
        Code.generate_inserted stopped beside.declarations generated
      have config' : processor'.config = config := twin.config.trans configured
      rw [Tally.through_cons, ← configured] at generated
      rw [← config'] at generated'
      have gathered := gather_collects collects source presented
      have gathered' := gather_collects collects' source presented'
      refine ⟨_, _, follow_last collects generated, follow_last collects' generated', ?_⟩
      rw [Tally.through_nil, ← gathered.entries] at generated
      have inserted := beside.declarations
      rw [← gathered.entries, ← gathered'.entries] at inserted
      rw [← gathered'.entries] at generated'
      have artifacts : generation'.artifacts = generation.artifacts := by
        simp [Generation.artifacts, owned]
      refine close_spared (twin.gather source presented presented') rfl inserted generated
        generated' artifacts ?_ ?_ ?_
      · rw [beside.diagnostics]
        exact (failures.map Code.GenerationFault.diagnostic).append_left _
      · rw [beside.outcome, Outcome.add]
      · rw [beside.outcome, failures.length]
        simp [Outcome.add]
        omega
  | cons next rest ih =>
      obtain ⟨first, others⟩ := List.forall_mem_cons.mp absent
      have more := List.cons_ne_nil next rest
      -- The handle is not presented again, so that the next round counts the same in both runs.
      have later := Tally.ofRound_beside source beside.declarations (Ledger.foreign_of_absent first)
      obtain ⟨run, run', followed, followed', spared⟩ := ih
        (twin.gather source presented presented') configured
        (gather_collects collects source presented) (gather_collects collects' source presented')
        later others generated
      have whole := follow_next collects source presented more
      have whole' := follow_next collects' source presented' more
      rw [followed] at whole
      rw [followed'] at whole'
      refine ⟨_, _, whole, whole', spared.recorded ?_⟩
      simp [Report.answer, Answer.add, Except.map, beside.diagnostics, beside.outcome]

end Follow

/-- A handle that comes to nothing, with the diagnostic that says so and what is recorded for
it: its declaration is not accepted, or it is and cannot be rendered. -/
inductive Broken (source : Source H) (config : Config) (handle : H) :
    Diagnostic → List (Declaration H) → Prop
  | rejected {fault : DeclarationFault} (rejected : source.accept handle = .error fault) :
      Broken source config handle (.fatal fault.declaration fault.message) []
  | unrendered {declaration : Declaration H} {failure : GenerationFault}
      (accepted : source.accept handle = .ok declaration)
      (stopped : render declaration config = .error (.failed failure)) :
      Broken source config handle failure.diagnostic [declaration]

/-- A handle whose declaration is broken, put in anywhere into a run that lacks it and in which
no rendering aborts, changes nothing for the others: the writer is left the same, whatever it
keeps of its files.  There is one more fatal diagnostic, in the round of the handle or, if it
is recorded, in the last one. -/
theorem follow_spares (writer : W) (config : Config) (source : Source H) {handle : H}
    (broken : Broken source config handle diagnostic kept) (earlier later : List (List H))
    (before after : List H)
    (absent : ∀ round ∈ earlier ++ (before ++ after) :: later, handle ∉ round)
    (rendered : ∀ declaration ∈
      Tally.through source (earlier ++ (before ++ after) :: later) [], ∀ abort,
        render declaration config ≠ .error (.aborted abort)) :
    let fresh : Processor H W := .new writer config
    ∃ run run',
      fresh.follow (Visit.toLast source (earlier ++ (before ++ after) :: later)) = .ok run ∧
      fresh.follow (Visit.toLast source (earlier ++ (before ++ handle :: after) :: later)) =
        .ok run' ∧
      Spared earlier.length (earlier.length + if kept.isEmpty then 0 else later.length)
        kept.length diagnostic kept run run' := by
  intro fresh
  obtain ⟨generation, generated⟩ := Code.exists_generation rendered
  rw [Tally.through_append] at generated
  obtain ⟨reports, between, length, config', collects, followed⟩ :=
    @follow_behind H _ _ W _ fresh source [] earlier .empty
  have absentHere : handle ∉ before ++ after := absent _ (by simp)
  have absentLater : ∀ round ∈ later, handle ∉ round := fun round member =>
    absent round (by simp [member])
  have unknown : handle ∉ handles (Tally.through source earlier []) := by
    refine Tally.not_mem_through List.not_mem_nil ?_
    exact fun round member => absent round (List.mem_append_left _ member)
  rw [List.mem_append, not_or] at absentHere
  have unknown' := @Tally.not_mem_ofRound H _ source _ _ unknown _ absentHere.1
  suffices met : ∃ run run',
      between.follow (Visit.toLast source ((before ++ after) :: later)) = .ok run ∧
      between.follow (Visit.toLast source ((before ++ handle :: after) :: later)) = .ok run' ∧
      Spared 0 (if kept.isEmpty then 0 else later.length) kept.length diagnostic kept run run' by
    obtain ⟨run, run', first, second, spared⟩ := met
    refine ⟨_, _, ?_, ?_, length ▸ spared.behind reports⟩
    · rw [followed _ (List.cons_ne_nil _ _), first]
      rfl
    · rw [followed _ (List.cons_ne_nil _ _), second]
      rfl
  cases broken with
  | rejected rejected =>
      have same : between.config = config := config'
      rw [← same] at generated
      exact follow_rejected rejected collects unknown' after later generated
  | @unrendered declaration failure accepted stopped =>
      have named := (Source.accept_eq_ok accepted).2.1
      have beside := Tally.ofRound_unrendered accepted unknown' absentHere.2
      exact follow_beside stopped later ⟨rfl, rfl, rfl⟩ config' collects collects beside
        (named ▸ absentLater) generated

/-- A source of points, of which the second has a field that cannot be named, and which has
nothing under the third handle. -/
def flawedPoints : Source Nat :=
  .ofDescriptions fun handle =>
    if handle < 2 then
      .ok ⟨1, .struct, .product, [⟨true, [⟨2, .ofClass 2⟩]⟩],
        ⟨["geo", "Point", if handle = 0 then "x" else "self", "i32"],
          [⟨none, 0, .package⟩, ⟨some 0, 1, .type⟩, ⟨none, 3, .type⟩]⟩⟩
    else .error (.missing (toString handle))

theorem follow_spares_flawedPoints :
    let fresh : Processor Nat Output.Memory := .new .empty {}
    let flawed : Declaration Nat := ⟨1, "geo", "Point", [⟨"self", "i32"⟩]⟩
    let failure : GenerationFault := .render "geo::Point" (.member (.reserved "self"))
    let fault : DeclarationFault := .extraction (.unavailable "2" (.missing "2"))
    ∃ run recorded rejected,
      fresh.follow (Visit.toLast flawedPoints [[0], []]) = .ok run ∧
      fresh.follow (Visit.toLast flawedPoints [[1, 0], []]) = .ok recorded ∧
      Spared 0 1 1 failure.diagnostic [flawed] run recorded ∧
      fresh.follow (Visit.toLast flawedPoints [[0], [2]]) = .ok rejected ∧
      Spared 1 1 0 (.fatal fault.declaration fault.message) [] run rejected := by
  intro fresh flawed failure fault
  have listed : Tally.through flawedPoints [[0], []] [] =
      [⟨0, "geo", "Point", [⟨"x", "i32"⟩]⟩] := by
    decide
  have rendered : ∀ declaration ∈ Tally.through flawedPoints [[0], []] [], ∀ abort,
      render declaration {} ≠ .error (.aborted abort) := by
    intro declaration member abort aborted
    rw [listed, List.mem_singleton] at member
    have succeeded : (render declaration {}).toOption.isSome = true := by
      rw [member]
      decide +kernel
    rw [aborted] at succeeded
    cases succeeded
  have unrendered : Broken flawedPoints {} 1 failure.diagnostic [flawed] :=
    .unrendered (by decide) (by decide +kernel)
  have rejected : Broken flawedPoints {} 2 (.fatal fault.declaration fault.message) [] :=
    .rejected (by decide)
  obtain ⟨run, run', followed, followed', spared⟩ :=
    follow_spares Output.Memory.empty {} flawedPoints unrendered [] [[]] [] [0] (by decide) rendered
  obtain ⟨again, run'', followedAgain, followed'', spared'⟩ :=
    follow_spares Output.Memory.empty {} flawedPoints rejected [[0]] [] [] [] (by decide) rendered
  cases followed.symm.trans followedAgain
  exact ⟨run, run', run'', followed, followed', spared, followed'', spared'⟩

end Processor

end RecordDerive
