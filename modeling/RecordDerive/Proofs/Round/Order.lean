import RecordDerive.Proofs.Code.Undisputed
import RecordDerive.Proofs.Round.Insertion
import Mathlib.Data.List.Nodup

/-!
# Order and repetition

As long as a source stays the same, what becomes of a handle depends on that handle alone:
presented again, it is accepted again with the same declaration or rejected again for the same
fault.  Handles meet only where two of them claim one path.  So where none do, runs that
present the same handles end alike, in whatever order and however often they present them.
-/

namespace RecordDerive

open Code (Artifact Generation GenerationFault Stop render)
open Ledger (find? handles put drop)
open Output (Memory deliver)
open Text (FilePath)

variable {H : Type} [DecidableEq H]

/-! ## What some handles come to -/

namespace Tally

variable {source : Source H}

/-- A tally of exactly what some handles come to, each for itself. -/
structure Settles (source : Source H) (presented : List H) (tally : Tally H) : Prop where
  distinct : (handles tally.declarations).Nodup
  declarations : ∀ declaration, declaration ∈ tally.declarations ↔
    ∃ handle ∈ presented, source.accept handle = .ok declaration
  diagnostics : ∀ diagnostic, diagnostic ∈ tally.diagnostics.all ↔
    ∃ handle ∈ presented, ∃ fault, source.accept handle = .error fault ∧
      diagnostic = .fatal fault.declaration fault.message

variable {presented : List H} {tally : Tally H}

omit [DecidableEq H] in
/-- The declaration that is listed under a handle is the one it is accepted with. -/
theorem Settles.accepted (settles : tally.Settles source presented) {declaration : Declaration H}
    (listed : declaration ∈ tally.declarations) :
    source.accept declaration.handle = .ok declaration := by
  obtain ⟨handle, -, accepted⟩ := (settles.declarations declaration).mp listed
  rw [(Source.accept_eq_ok accepted).2.1]
  exact accepted

/-- Another declaration is listed under a handle that is accepted only if it is the same. -/
theorem Settles.recorded (settles : tally.Settles source presented) {declaration : Declaration H}
    (accepted : source.accept declaration.handle = .ok declaration) (diagnostics : Diagnostics) :
    noted source declaration.handle diagnostics
      (Ledger.recorded declaration (find? declaration.handle tally.declarations)) =
        diagnostics := by
  cases found : find? declaration.handle tally.declarations with
  | none => rfl
  | some old =>
      have listed := List.mem_of_find?_eq_some found
      have same : old.handle = declaration.handle := by simpa using List.find?_some found
      have again := settles.accepted listed
      rw [same, accepted] at again
      cases again
      simp [Ledger.recorded, noted]

omit [DecidableEq H] in
theorem settles_nil (source : Source H) : (⟨[], .empty, {}⟩ : Tally H).Settles source [] where
  distinct := List.nodup_nil
  declarations := by simp
  diagnostics := by simp [Diagnostics.empty]

/-- Presenting a handle adds what that handle comes to, or nothing if it has been presented. -/
theorem Settles.present (settles : tally.Settles source presented) (handle : H) :
    (tally.present source handle).Settles source (presented ++ [handle]) := by
  cases accepted : source.accept handle with
  | ok declaration =>
      have named : declaration.handle = handle := (Source.accept_eq_ok accepted).2.1
      subst named
      unfold Tally.present
      rw [accepted]
      dsimp only
      rw [settles.recorded accepted]
      refine ⟨Ledger.nodup_put settles.distinct, ?_, ?_⟩
      · intro other
        rw [Ledger.mem_put settles.distinct, settles.declarations]
        simp only [List.mem_append, List.mem_singleton, or_and_right, exists_or, exists_eq_left,
          accepted, Except.ok.injEq]
        constructor
        · rintro (rfl | ⟨before, -⟩)
          · exact .inr rfl
          · exact .inl before
        · rintro (⟨earlier, member, accepted'⟩ | rfl)
          · by_cases same : other.handle = declaration.handle
            · have named := (Source.accept_eq_ok accepted').2.1
              rw [← named, same, accepted] at accepted'
              exact .inl (Except.ok.inj accepted').symm
            · exact .inr ⟨⟨earlier, member, accepted'⟩, same⟩
          · exact .inl rfl
      · intro diagnostic
        rw [settles.diagnostics]
        simp [or_and_right, exists_or, accepted]
  | error fault =>
      have unknown : handle ∉ handles tally.declarations := by
        intro known
        obtain ⟨declaration, listed, rfl⟩ := Ledger.mem_handles.mp known
        rw [settles.accepted listed] at accepted
        cases accepted
      unfold Tally.present
      rw [accepted]
      dsimp only
      rw [Ledger.drop_eq_self unknown]
      refine ⟨settles.distinct, ?_, ?_⟩
      · intro declaration
        rw [settles.declarations]
        simp [or_and_right, exists_or, accepted]
      · intro diagnostic
        simp only [Diagnostics.report, List.mem_append, settles.diagnostics, List.mem_singleton,
          or_and_right, exists_or, exists_eq_left, accepted, Except.error.injEq]
        simp

/-- A round comes to what each of its handles comes to. -/
theorem ofRound_settles (source : Source H) (presented : List H) :
    (ofRound source [] presented).Settles source presented := by
  suffices grown : ∀ before (tally : Tally H), tally.Settles source before →
      (presented.foldl (Tally.present source) tally).Settles source (before ++ presented) from
    grown [] _ (settles_nil source)
  induction presented with
  | nil =>
      intro before tally settles
      rw [List.append_nil]
      exact settles
  | cons handle presented ih =>
      intro before tally settles
      rw [List.append_cons]
      exact ih _ _ (settles.present handle)

/-! ## Rounds one after the other -/

theorem gathered_eq_ofRound (source : Source H) (rounds : List (List H)) (last : List H)
    (declarations : List (Declaration H)) :
    gathered (rounds.map (source, ·) ++ [(source, last)]) declarations =
      (ofRound source declarations (rounds.flatten ++ last)).declarations := by
  induction rounds generalizing declarations with
  | nil => rfl
  | cons first rounds ih =>
      rw [List.flatten_cons, List.append_assoc, ofRound_append]
      exact ih _

/-- The diagnostics of some rounds are those of one round over all handles, and behind them
the failures of the generation. -/
theorem answers_diagnostics (source : Source H) (rounds : List (List H)) (last : List H)
    (generation : Generation) (paths : List FilePath) (declarations : List (Declaration H)) :
    (answers source last generation paths (rounds.map (source, ·)) declarations).flatMap
        (·.diagnostics.all) =
      (ofRound source declarations (rounds.flatten ++ last)).diagnostics.all ++
        generation.failures.map (·.diagnostic) := by
  induction rounds generalizing declarations with
  | nil => simp [answers, lastAnswer, Diagnostics.reportAll]
  | cons first rounds ih =>
      have whole := ofRound_append source declarations first (rounds.flatten ++ last)
      rw [List.map_cons, answers, List.flatMap_cons, ih, List.flatten_cons, List.append_assoc,
        whole, ← List.append_assoc]
      rfl

end Tally

/-! ## Runs -/

/-- Handles of which no two come to files at one path, and none to an abort. -/
structure Source.Undisputed (source : Source H) (config : Config) (presented : List H) :
    Prop where
  renders : ∀ handle ∈ presented, ∀ declaration, source.accept handle = .ok declaration →
    ∀ abort, render declaration config ≠ .error (.aborted abort)
  apart : ∀ first ∈ presented, ∀ second ∈ presented, first ≠ second →
    ∀ declaration declaration' file file', source.accept first = .ok declaration →
      source.accept second = .ok declaration' → render declaration config = .ok file →
        render declaration' config = .ok file' → file.target.same file'.target = false

omit [DecidableEq H] in
/-- Then the declarations they are accepted with are undisputed as well. -/
theorem Source.Undisputed.declarations {source : Source H} {config : Config} {presented : List H}
    (undisputed : source.Undisputed config presented) {tally : Tally H}
    (settles : tally.Settles source presented) : Code.Undisputed config tally.declarations where
  renders declaration listed := by
    obtain ⟨handle, member, accepted⟩ := (settles.declarations declaration).mp listed
    exact undisputed.renders handle member declaration accepted
  apart := by
    refine (List.pairwise_map.mp settles.distinct).imp_of_mem ?_
    intro first second listed listed' differ file file' rendered rendered'
    obtain ⟨handle, member, accepted⟩ := (settles.declarations first).mp listed
    obtain ⟨handle', member', accepted'⟩ := (settles.declarations second).mp listed'
    rw [(Source.accept_eq_ok accepted).2.1, (Source.accept_eq_ok accepted').2.1] at differ
    exact undisputed.apart handle member handle' member' differ first second file file' accepted
      accepted' rendered rendered'

omit [DecidableEq H] in
/-- Whether handles are undisputed can be computed. -/
theorem Source.undisputed_of_check {source : Source H} {config : Config} {presented : List H}
    (renders : ∀ handle ∈ presented, ∀ declaration ∈ (source.accept handle).toOption,
      Code.isAborted (render declaration config) = false)
    (apart : ∀ first ∈ presented, ∀ second ∈ presented, first ≠ second →
      ∀ declaration ∈ (source.accept first).toOption,
      ∀ declaration' ∈ (source.accept second).toOption,
      ∀ file ∈ Code.file? (render declaration config),
      ∀ file' ∈ Code.file? (render declaration' config), file.target.same file'.target = false) :
    source.Undisputed config presented where
  renders handle member declaration accepted :=
    Code.ne_aborted (renders handle member declaration (by rw [accepted]; rfl))
  apart first member second member' differ declaration declaration' file file' accepted accepted'
      rendered rendered' := by
    refine apart first member second member' differ declaration ?_ declaration' ?_ file ?_ file' ?_
    · rw [accepted]
      rfl
    · rw [accepted']
      rfl
    · rw [rendered]
      rfl
    · rw [rendered']
      rfl

omit [DecidableEq H] in
theorem Source.Undisputed.of_same {source : Source H} {config : Config}
    {presented presented' : List H} (undisputed : source.Undisputed config presented)
    (same : ∀ handle, handle ∈ presented ↔ handle ∈ presented') :
    source.Undisputed config presented' := by
  obtain ⟨renders, apart⟩ := undisputed
  simp only [same] at renders apart
  exact ⟨renders, apart⟩

variable [Hashable H]

namespace Processor

/-- A run that has come to what its handles come to, each for itself. -/
structure Settled (source : Source H) (config : Config) (presented : List H)
    (reports : List (Report H Memory)) (reached : Processor H Memory) : Prop where
  distinct : reached.accumulator.snapshot.Nodup
  declarations : ∀ declaration, declaration ∈ reached.accumulator.snapshot ↔
    ∃ handle ∈ presented, source.accept handle = .ok declaration
  apart : reached.writer.files.Pairwise fun first second =>
    first.target.components ≠ second.target.components
  files : ∀ file, file ∈ reached.writer.files ↔
    ∃ declaration ∈ reached.accumulator.snapshot, render declaration config = .ok file
  diagnostics : ∀ diagnostic, diagnostic ∈ reports.flatMap (·.diagnostics.all) ↔
    (∃ handle ∈ presented, ∃ fault, source.accept handle = .error fault ∧
      diagnostic = .fatal fault.declaration fault.message) ∨
    ∃ declaration ∈ reached.accumulator.snapshot, ∃ failure,
      render declaration config = .error (.failed failure) ∧ diagnostic = failure.diagnostic
  succeed : ∀ report ∈ reports, ∃ outcome, report.outcome = .ok outcome

/-- Every run over handles without disputes is settled. -/
theorem exists_settled {source : Source H} {config : Config} (rounds : List (List H))
    (last : List H) (undisputed : source.Undisputed config (rounds.flatten ++ last)) :
    ∃ reports reached, (Processor.new Memory.empty config).follow
        (Visit.closing (rounds.map (source, ·)) source last) = .ok (reports, reached) ∧
      Settled source config (rounds.flatten ++ last) reports reached := by
  have settles := Tally.ofRound_settles source (rounds.flatten ++ last)
  have listed := Tally.gathered_eq_ofRound source rounds last []
  obtain ⟨generation, generated, artifacts, failures⟩ :=
    Code.generate_of_undisputed (undisputed.declarations settles)
  rw [← listed] at generated artifacts failures
  have apart : Code.Apart ([] ++ generation.artifacts) := Code.apart_of_generate generated
  obtain ⟨memory, taken, kept⟩ :=
    @Memory.deliver_apart generation.artifacts [] .empty (.refl _) apart
  obtain ⟨reports, reached, followed, answers, snapshot, rfl, -⟩ :=
    @follow_closing H _ _ _ _ (rounds.map (source, ·)) source last (.new Memory.empty config) []
      .empty _ generated _ _ taken
  refine ⟨reports, reached, followed, ?_, ?_, ?_, ?_, ?_, ?_⟩
  · rw [snapshot, listed]
    exact List.Nodup.of_map _ settles.distinct
  · rw [snapshot, listed]
    exact settles.declarations
  · exact apart.distinct.perm kept.symm Ne.symm
  · intro file
    rw [snapshot, ← artifacts]
    exact kept.mem_iff
  · intro diagnostic
    have shown : reports.flatMap (·.diagnostics.all) =
        (reports.map Report.answer).flatMap (·.diagnostics.all) := by
      rw [List.flatMap_map]
      rfl
    rw [shown, answers, Tally.answers_diagnostics, List.mem_append, settles.diagnostics, snapshot,
      List.mem_map]
    constructor
    · rintro (rejected | ⟨failure, failed, rfl⟩)
      · exact .inl rejected
      · obtain ⟨declaration, member, stopped⟩ := (failures failure).mp failed
        exact .inr ⟨declaration, member, failure, stopped, rfl⟩
    · rintro (rejected | ⟨declaration, member, failure, stopped, rfl⟩)
      · exact .inl rejected
      · exact .inr ⟨failure, (failures failure).mpr ⟨declaration, member, stopped⟩, rfl⟩
  · intro report member
    have answered := List.mem_map_of_mem (f := Report.answer) member
    rw [answers] at answered
    exact Tally.answers_succeed answered

variable {source : Source H} {config : Config} {presented presented' : List H}
  {reports reports' : List (Report H Memory)} {reached reached' : Processor H Memory}

/-- Only the handles count, not their order or how often they are presented. -/
theorem Settled.of_same (settled : Settled source config presented reports reached)
    (same : ∀ handle, handle ∈ presented ↔ handle ∈ presented') :
    Settled source config presented' reports reached := by
  obtain ⟨distinct, declarations, apart, files, diagnostics, succeed⟩ := settled
  simp only [same] at declarations diagnostics
  exact ⟨distinct, declarations, apart, files, diagnostics, succeed⟩

/-- Nothing but faults is reported. -/
theorem Settled.isFatal (settled : Settled source config presented reports reached)
    {diagnostic : Diagnostic} (reported : diagnostic ∈ reports.flatMap (·.diagnostics.all)) :
    diagnostic.isFatal = true := by
  rcases (settled.diagnostics diagnostic).mp reported with
    ⟨handle, -, fault, -, rfl⟩ | ⟨declaration, -, failure, -, rfl⟩
  · rfl
  · rfl

theorem Settled.contents?_eq_some (settled : Settled source config presented reports reached)
    {path : FilePath} {contents : String} :
    reached.writer.contents? path = some contents ↔
      ∃ file, (∃ declaration, (∃ handle ∈ presented, source.accept handle = .ok declaration) ∧
        render declaration config = .ok file) ∧
      file.target.same path = true ∧ file.contents = contents := by
  rw [Memory.contents?_eq_some settled.apart]
  simp only [settled.files, settled.declarations]

/-- Two runs that have ended alike. -/
structure Agree (reports reports' : List (Report H Memory))
    (reached reached' : Processor H Memory) : Prop where
  contents : reached.writer.contents? = reached'.writer.contents?
  declarations : reached.accumulator.snapshot.Perm reached'.accumulator.snapshot
  /-- The same declarations are reported as fatal, and for the same causes. -/
  fatal : ∀ diagnostic, (∃ report ∈ reports, diagnostic ∈ report.diagnostics.fatal) ↔
    ∃ report ∈ reports', diagnostic ∈ report.diagnostics.fatal
  unwarned : ∀ report ∈ reports ++ reports', report.diagnostics.warnings = []
  succeed : ∀ report ∈ reports ++ reports', ∃ outcome, report.outcome = .ok outcome

theorem Settled.unwarned (settled : Settled source config presented reports reached)
    {report : Report H Memory} (member : report ∈ reports) : report.diagnostics.warnings = [] := by
  rw [Diagnostics.warnings, List.filter_eq_nil_iff]
  intro diagnostic reported
  have fatal := settled.isFatal (List.mem_flatMap.mpr ⟨report, member, reported⟩)
  simp [fatal]

theorem Settled.fatal (settled : Settled source config presented reports reached)
    (diagnostic : Diagnostic) : (∃ report ∈ reports, diagnostic ∈ report.diagnostics.fatal) ↔
      diagnostic ∈ reports.flatMap (·.diagnostics.all) := by
  rw [List.mem_flatMap]
  constructor
  · rintro ⟨report, member, reported⟩
    exact ⟨report, member, (List.mem_filter.mp reported).1⟩
  · rintro ⟨report, member, reported⟩
    have fatal := settled.isFatal (List.mem_flatMap.mpr ⟨report, member, reported⟩)
    exact ⟨report, member, List.mem_filter.mpr ⟨reported, fatal⟩⟩

/-- What a settled run has come to follows from the handles that were presented. -/
theorem Settled.agree (settled : Settled source config presented reports reached)
    (settled' : Settled source config presented reports' reached') :
    Agree reports reports' reached reached' where
  contents := by
    funext path
    ext contents
    rw [settled.contents?_eq_some, settled'.contents?_eq_some]
  declarations := by
    rw [List.perm_ext_iff_of_nodup settled.distinct settled'.distinct]
    intro declaration
    rw [settled.declarations, settled'.declarations]
  fatal diagnostic := by
    rw [settled.fatal, settled'.fatal, settled.diagnostics, settled'.diagnostics]
    simp only [settled.declarations, settled'.declarations]
  unwarned report member := by
    rcases List.mem_append.mp member with first | second
    · exact settled.unwarned first
    · exact settled'.unwarned second
  succeed report member := by
    rcases List.mem_append.mp member with first | second
    · exact settled.succeed report first
    · exact settled'.succeed report second

/-- Two runs over the same handles, of which no two come to files at one path, end alike,
whatever the order of the handles is and the rounds they are presented in. -/
theorem follow_unordered (source : Source H) (config : Config) (rounds rounds' : List (List H))
    (last last' : List H)
    (same : ∀ handle, handle ∈ rounds.flatten ++ last ↔ handle ∈ rounds'.flatten ++ last')
    (undisputed : source.Undisputed config (rounds.flatten ++ last)) :
    ∃ reports reports' reached reached',
      (Processor.new Memory.empty config).follow
        (Visit.closing (rounds.map (source, ·)) source last) = .ok (reports, reached) ∧
      (Processor.new Memory.empty config).follow
        (Visit.closing (rounds'.map (source, ·)) source last') = .ok (reports', reached') ∧
      Agree reports reports' reached reached' := by
  obtain ⟨reports, reached, followed, settled⟩ := exists_settled rounds last undisputed
  obtain ⟨reports', reached', followed', settled'⟩ :=
    exists_settled rounds' last' (undisputed.of_same same)
  exact ⟨reports, reports', reached, reached', followed, followed',
    settled.agree (settled'.of_same fun handle => (same handle).symm)⟩

/-- A source of three figures, of which the third has a field that cannot be named. -/
def threeFigures : Source Nat :=
  .ofDescriptions fun handle =>
    match [("Point", "x"), ("Line", "length"), ("Arc", "self")][handle]? with
    | some (name, field) =>
        .ok ⟨1, .struct, .product, [⟨true, [⟨2, .ofClass 2⟩]⟩], ⟨["geo", name, field, "i32"],
          [⟨none, 0, .package⟩, ⟨some 0, 1, .type⟩, ⟨none, 3, .type⟩]⟩⟩
    | none => .error (.missing (toString handle))

theorem follow_unordered_threeFigures :
    let fresh : Processor Nat Memory := .new .empty {}
    (∀ handle, handle ∈ [[1, 0], [2, 1]].flatten ++ [3, 0] ↔
      handle ∈ [[3, 3, 2]].flatten ++ [0, 1]) ∧
    threeFigures.Undisputed {} ([[1, 0], [2, 1]].flatten ++ [3, 0]) ∧
    ∃ reports reports' reached reached',
      fresh.follow (Visit.closing [(threeFigures, [1, 0]), (threeFigures, [2, 1])] threeFigures
        [3, 0]) = .ok (reports, reached) ∧
      fresh.follow (Visit.closing [(threeFigures, [3, 3, 2])] threeFigures [0, 1]) =
        .ok (reports', reached') ∧
      Agree reports reports' reached reached' := by
  intro fresh
  have same : ∀ handle, handle ∈ [[1, 0], [2, 1]].flatten ++ [3, 0] ↔
      handle ∈ [[3, 3, 2]].flatten ++ [0, 1] := by
    intro handle
    simp
    omega
  have undisputed : threeFigures.Undisputed {} ([[1, 0], [2, 1]].flatten ++ [3, 0]) :=
    Source.undisputed_of_check (by decide +kernel) (by decide +kernel)
  exact ⟨same, undisputed, follow_unordered threeFigures {} _ _ _ _ same undisputed⟩

end Processor

end RecordDerive
