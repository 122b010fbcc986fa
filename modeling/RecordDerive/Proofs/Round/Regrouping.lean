import RecordDerive.Output.Memory
import RecordDerive.Proofs.Round.Lifecycle

/-!
# Grouping handles into rounds

What a round adds does not depend on what the same handles would have met in one round
with those before them: counts start anew, diagnostics are reported one after the
other, and nothing is generated before the final round.  So a round may be cut in two.
-/

namespace RecordDerive

open Code (Generation)
open Output (Writer)

variable {H W : Type} [DecidableEq H] [Hashable H]

/-! ## Tallies one after the other -/

/-- The counts of two rounds, with the files of the second. -/
def Outcome.add (earlier later : Outcome) : Outcome where
  recorded := earlier.recorded + later.recorded
  failed := earlier.failed + later.failed
  generated := later.generated

/-- What two tallies come to, the second of which starts from the declarations of the
first. -/
def Tally.add (earlier later : Tally H) : Tally H where
  declarations := later.declarations
  diagnostics := earlier.diagnostics.reportAll later.diagnostics.all
  outcome := earlier.outcome.add later.outcome

namespace Tally

omit [Hashable H]

omit [DecidableEq H] in
theorem noted_reportAll (source : Source H) (handle : H) (earlier later : Diagnostics)
    (recorded : Recorded) :
    noted source handle (earlier.reportAll later.all) recorded =
      earlier.reportAll (noted source handle later recorded).all := by
  cases recorded with
  | added => rfl
  | replaced structureChanged =>
      cases structureChanged with
      | false => rfl
      | true => simp [noted, Diagnostics.reportAll, Diagnostics.report]

/-- A handle does to the later tally what it does to both. -/
theorem add_present (source : Source H) (earlier later : Tally H) (handle : H) :
    (earlier.add later).present source handle = earlier.add (later.present source handle) := by
  cases accepted : source.accept handle with
  | ok declaration =>
      simp only [present, add, accepted, noted_reportAll]
      rfl
  | error fault =>
      simp only [present, add, accepted, Diagnostics.reportAll, Diagnostics.report,
        List.append_assoc]
      rfl

theorem add_foldl (source : Source H) (handles : List H) (earlier later : Tally H) :
    handles.foldl (present source) (earlier.add later) =
      earlier.add (handles.foldl (present source) later) := by
  induction handles generalizing later with
  | nil => rfl
  | cons handle handles ih =>
      rw [List.foldl_cons, add_present, ih]
      rfl

/-- The tally of a round is that of its first handles with that of the others. -/
theorem ofRound_append (source : Source H) (declarations : List (Declaration H))
    (first second : List H) :
    ofRound source declarations (first ++ second) =
      (ofRound source declarations first).add
        (ofRound source (ofRound source declarations first).declarations second) := by
  have unfinished : (ofRound source declarations first).outcome.generated = none :=
    generated_foldl source first _
  have start : (ofRound source declarations first).add
      ⟨(ofRound source declarations first).declarations, .empty, {}⟩ =
        ofRound source declarations first := by
    simp [add, Outcome.add, Diagnostics.reportAll, Diagnostics.empty, ← unfinished]
  rw [ofRound, List.foldl_append]
  conv => lhs; rw [← ofRound, ← start]
  exact add_foldl source second _ _

end Tally

namespace Processor

/-! ## Reachable processors -/

/-- A processor that rounds lead to from a fresh one. -/
inductive Reachable [Writer W] : Processor H W → Prop
  | new (writer : W) (config : Config) : Reachable (.new writer config)
  | round {processor : Processor H W} {source : Source H} {handles : List H} {isFinal : Bool}
      {report : Report H W} (reachable : Reachable processor)
      (reported : processor.onRound source handles isFinal = .ok report) :
      Reachable report.processor

variable [Writer W] {processor : Processor H W}

/-- While declarations are collected, the index of their positions is right. -/
theorem Reachable.collects (reachable : Reachable processor)
    (collecting : processor.accumulator.phase = .collecting) :
    processor.accumulator.Collects processor.accumulator.entries := by
  induction reachable with
  | new writer config => exact .empty
  | @round processor source handles isFinal report reachable reported ih =>
      by_cases before : processor.accumulator.phase = .collecting
      · have collects := ih before
        rcases onRound_cases collects reported with ⟨-, rfl⟩ | ⟨generation, -, -, rfl⟩
        · have gathered := gather_collects collects source handles
          exact ⟨gathered.indexed, rfl, gathered.phase⟩
        · exact absurd collecting (close_closed _ _ _ _)
      · rw [onRound_of_closed before] at reported
        cases reported
        exact absurd collecting before

/-! ## A round cut in two -/

/-- A round did what two rounds did, of which the first reported `earlier` and had the
given outcome: all is left as by the second, only that one round less was counted. -/
structure Joined (earlier : Diagnostics) (outcome : Outcome) (second whole : Report H W) :
    Prop where
  accumulator : whole.processor.accumulator = second.processor.accumulator
  writer : whole.processor.writer = second.processor.writer
  config : whole.processor.config = second.processor.config
  rounds : second.processor.rounds = whole.processor.rounds + 1
  diagnostics : whole.diagnostics.all = earlier.all ++ second.diagnostics.all
  outcome : whole.outcome = second.outcome.map outcome.add

omit [Output.Writer W] in
theorem gather_append (source : Source H) (first second : List H) :
    processor.gather source (first ++ second) =
      { (processor.gather source first).gather source second with
        rounds := processor.rounds + 1 } := by
  simp only [gather, List.foldl_append]

/-- Closing does not look at the rounds, counts and diagnostics it adds to. -/
theorem close_joined {rounds : Nat} (counted : processor.rounds = rounds + 1)
    (earlier later : Diagnostics) (first second : Outcome) (generation : Generation) :
    Joined earlier first (processor.close later second generation)
      ({ processor with rounds }.close (earlier.reportAll later.all) (first.add second)
        generation) := by
  rw [close, close]
  rcases Output.deliver generation.artifacts processor.writer with ⟨paths, writer⟩
  cases paths with
  | ok paths =>
      refine ⟨rfl, rfl, rfl, counted, by simp [Diagnostics.reportAll], ?_⟩
      simp [Except.map, Outcome.add, Nat.add_assoc]
  | error fault => exact ⟨rfl, rfl, rfl, counted, by simp [Diagnostics.reportAll], rfl⟩

/-- A round over some handles does what a round over the first of them and one over the
others do; it aborts where the second of these does. -/
theorem Reachable.onRound_append (reachable : Reachable processor)
    (collecting : processor.accumulator.phase = .collecting) (source : Source H)
    (first second : List H) (isFinal : Bool) :
    ∃ between earlier outcome,
      processor.onRound source first false = .ok ⟨between, earlier, .ok outcome⟩ ∧
      ((∃ abort, between.onRound source second isFinal = .error abort ∧
          processor.onRound source (first ++ second) isFinal = .error abort) ∨
        ∃ later whole, between.onRound source second isFinal = .ok later ∧
          processor.onRound source (first ++ second) isFinal = .ok whole ∧
          Joined earlier outcome later whole) := by
  have collects := reachable.collects collecting
  have collects' := gather_collects collects source first
  refine ⟨_, _, _, onRound_gathers collects source first, ?_⟩
  cases isFinal with
  | false =>
      refine .inr ⟨_, _, onRound_gathers collects' source second, onRound_gathers collects _ _, ?_⟩
      rw [Tally.ofRound_append, gather_append]
      exact ⟨rfl, rfl, rfl, rfl, rfl, rfl⟩
  | true =>
      rw [onRound_closes collects, onRound_closes collects', Tally.ofRound_append, gather_append]
      have config : (processor.gather source first).config = processor.config := rfl
      rw [config]
      dsimp only [Tally.add]
      cases Code.generate _ processor.config with
      | error abort => exact .inl ⟨abort, rfl, rfl⟩
      | ok generation => exact .inr ⟨_, _, rfl, rfl, close_joined rfl _ _ _ _ generation⟩

/-- A declaration without metadata, presented in both parts of a final round. -/
theorem onRound_append_missing :
    let source := (Registry.empty.insertMissing "Lost").2.source
    let fresh : Processor DeclarationId Output.Memory := .new .empty {}
    Reachable fresh ∧ fresh.accumulator.phase = .collecting ∧
      ∃ between earlier outcome,
        fresh.onRound source [⟨0⟩] false = .ok ⟨between, earlier, .ok outcome⟩ ∧
        ((∃ abort, between.onRound source [⟨0⟩, ⟨1⟩] true = .error abort ∧
            fresh.onRound source [⟨0⟩, ⟨0⟩, ⟨1⟩] true = .error abort) ∨
          ∃ later whole, between.onRound source [⟨0⟩, ⟨1⟩] true = .ok later ∧
            fresh.onRound source [⟨0⟩, ⟨0⟩, ⟨1⟩] true = .ok whole ∧
            Joined earlier outcome later whole) := by
  intro source fresh
  have reachable : Reachable fresh := .new Output.Memory.empty {}
  exact ⟨reachable, rfl, reachable.onRound_append rfl source [⟨0⟩] [⟨0⟩, ⟨1⟩] true⟩

end Processor

end RecordDerive
