import RecordDerive.Proofs.Declaration.Labels
import RecordDerive.Proofs.Round.Account
import RecordDerive.Proofs.Round.History

/-!
# Under which name a round reports

A fatal diagnostic about a handle that can be read names its declaration: the one that was
extracted for the handle, or the one that was extracted when it was presented last.  The
warning about a declaration that has changed does not; it names the handle by its label, also
where the metadata have another name for it.  That warning and the report of metadata that
cannot be read are the only places where labels are seen.
-/

namespace RecordDerive

open Code (Generation GenerationFault)
open History (Accumulated Latest)
open Output (Writer)

variable {H W : Type}

/-! ## Remarks -/

/-- Under which name a handle is remarked on. -/
inductive Source.Names (source : Source H) (handle : H) : Option Diagnostic → Prop
  | silent : Names source handle none
  | unread {cause : Metadata.Fault}
      (extracted :
        source.extract handle = .error (.unavailable (source.label handle) cause)) :
      Names source handle (some (.fatal (source.label handle)
        (ExtractionFault.unavailable (source.label handle) cause).message))
  | unfit {description : Metadata.Description} {fault : ExtractionFault}
      (described : source.describe handle = .ok description)
      (named : description.names.qualifiedName description.name = .ok fault.declaration)
      (extracted : source.extract handle = .error fault) :
      Names source handle (some (.fatal fault.declaration fault.message))
  | wide {declaration : Declaration H} (extracted : source.extract handle = .ok declaration)
      (wide : maxArity < declaration.arity) :
      Names source handle (some (.fatal declaration.qualifiedName
        (ValidationFault.tooManyFields declaration.qualifiedName declaration.arity
          maxArity).message))
  | changed {declaration : Declaration H} (extracted : source.extract handle = .ok declaration) :
      Names source handle (some (Round.changeWarning (source.label handle)))

/-- A remark on a handle has the name of its declaration, if there is one, just if it is fatal or
that name is the label. -/
def Source.Readable (source : Source H) (handle : H) (remark : Option Diagnostic) : Prop :=
  ∀ declaration, source.extract handle = .ok declaration → ∀ diagnostic, remark = some diagnostic →
    (diagnostic.declaration = declaration.qualifiedName ↔
      diagnostic.isFatal ∨ source.label handle = declaration.qualifiedName)

namespace Source.Names

variable {source : Source H} {handle : H}

theorem of_rejected {fault : DeclarationFault} (rejected : source.accept handle = .error fault) :
    source.Names handle (some (.fatal fault.declaration fault.message)) := by
  rcases accept_eq_error rejected with
    ⟨cause, extracted, rfl⟩ | ⟨declaration, extracted, exceeds, rfl⟩
  · rcases extract_eq_error extracted with ⟨inner, rfl⟩ | ⟨description, described, named⟩
    · exact .unread extracted
    · exact .unfit described named extracted
  · exact .wide extracted exceeds

/-- Of what is remarked on a handle that can be read, just the fatal has the name of its
declaration whatever the label. -/
theorem readable {remark : Option Diagnostic} (names : source.Names handle remark) :
    source.Readable handle remark := by
  rintro declaration extracted diagnostic rfl
  cases names with
  | unread failed => cases extracted.symm.trans failed
  | unfit described named failed => cases extracted.symm.trans failed
  | wide found exceeds =>
    cases extracted.symm.trans found
    simp [Diagnostic.fatal, Diagnostic.isFatal]
  | changed found => simp [Round.changeWarning, Diagnostic.warning, Diagnostic.isFatal]

end Source.Names

section Remarks

variable [DecidableEq H] [Hashable H] {source : Source H} {accumulator : Accumulator H}

theorem Remark.names {handle : H} {remark : Option Diagnostic}
    (told : Remark source accumulator handle remark) : source.Names handle remark := by
  cases told with
  | rejected rejected => exact .of_rejected rejected
  | changed accepted accumulated differs => exact .changed (Source.accept_eq_ok accepted).1
  | kept accepted accumulated name fields => exact .silent
  | added accepted unknown => exact .silent

theorem Remarks.names {handles : List H} {remarks : List (Option Diagnostic)}
    (told : Remarks source accumulator handles remarks) :
    List.Forall₂ source.Names handles remarks := by
  induction told with
  | nil accumulator => exact .nil
  | cons first later ih => exact .cons first.names ih

end Remarks

/-! ## Other labels -/

/-- A diagnostic and what it is under other labels. -/
inductive Diagnostic.Relabeled (source : Source H) (label : H → String) :
    Diagnostic → Diagnostic → Prop
  | same (diagnostic : Diagnostic) : Relabeled source label diagnostic diagnostic
  | changed (handle : H) :
      Relabeled source label (Round.changeWarning (source.label handle))
        (Round.changeWarning (label handle))

variable {source : Source H} {label : H → String}

/-- A tally and what it is under other labels. -/
structure Tally.Relabeled (source : Source H) (label : H → String) (tally other : Tally H) :
    Prop where
  declarations : other.declarations = tally.declarations
  outcome : other.outcome = tally.outcome
  diagnostics : List.Forall₂ (Diagnostic.Relabeled source label) tally.diagnostics.all
    other.diagnostics.all

theorem Tally.noted_relabel {diagnostics other : Diagnostics} (handle : H) (recorded : Recorded)
    (relabeled : List.Forall₂ (Diagnostic.Relabeled source label) diagnostics.all other.all) :
    List.Forall₂ (Diagnostic.Relabeled source label)
      (noted source handle diagnostics recorded).all
      (noted (source.relabel label) handle other recorded).all := by
  cases recorded with
  | added => exact relabeled
  | replaced structureChanged =>
    cases structureChanged with
    | false => exact relabeled
    | true => exact List.rel_append relabeled (.cons (.changed handle) .nil)

section Relabeling

variable [DecidableEq H]

theorem Tally.Relabeled.present {tally other : Tally H}
    (relabeled : tally.Relabeled source label other) {handle : H}
    (kept : (source.relabel label).accept handle = source.accept handle) :
    (tally.present source handle).Relabeled source label
      (other.present (source.relabel label) handle) := by
  obtain ⟨declarations, outcome, diagnostics⟩ := relabeled
  rw [Tally.present, Tally.present, kept]
  cases source.accept handle with
  | error fault =>
    refine ⟨?_, ?_, List.rel_append diagnostics (.cons (.same _) .nil)⟩
    · rw [declarations]
    · rw [outcome]
  | ok declaration =>
    refine ⟨?_, ?_, ?_⟩
    · rw [declarations]
    · rw [outcome]
    · rw [declarations]
      exact noted_relabel handle _ diagnostics

/-- Labels are kept where nothing can be read. -/
def Source.Keeps (source : Source H) (label : H → String) (handles : List H) : Prop :=
  ∀ handle ∈ handles, ∀ name cause,
    source.extract handle = .error (.unavailable name cause) → label handle = name

variable {handles : List H}

theorem Tally.Relabeled.foldl {tally other : Tally H}
    (relabeled : tally.Relabeled source label other) (keeps : source.Keeps label handles) :
    (handles.foldl (Tally.present source) tally).Relabeled source label
      (handles.foldl (Tally.present (source.relabel label)) other) := by
  induction handles generalizing tally other with
  | nil => exact relabeled
  | cons handle handles ih =>
    obtain ⟨here, later⟩ := List.forall_mem_cons.mp keeps
    exact ih (relabeled.present (Source.accept_relabel here)) later

variable [Hashable H]

theorem Accumulator.foldl_absorb_relabel (keeps : source.Keeps label handles)
    (accumulator : Accumulator H) :
    handles.foldl (Accumulator.absorb (source.relabel label)) accumulator =
      handles.foldl (Accumulator.absorb source) accumulator := by
  refine List.foldl_ext _ _ accumulator fun reached handle member => ?_
  rw [absorb, absorb, Source.accept_relabel (keeps handle member)]

namespace Processor

/-- A report and what it is under other labels. -/
structure Report.Relabeled (source : Source H) (label : H → String) (report other : Report H W) :
    Prop where
  processor : other.processor = report.processor
  outcome : other.outcome = report.outcome
  diagnostics : List.Forall₂ (Diagnostic.Relabeled source label) report.diagnostics.all
    other.diagnostics.all

variable [Writer W] {processor : Processor H W}

theorem close_relabeled {tally other : Tally H} (relabeled : tally.Relabeled source label other)
    (generation : Generation) :
    (processor.close tally.diagnostics tally.outcome generation).Relabeled source label
      (processor.close other.diagnostics other.outcome generation) := by
  have same : List.Forall₂ (Diagnostic.Relabeled source label)
      (generation.failures.map (·.diagnostic)) (generation.failures.map (·.diagnostic)) :=
    List.forall₂_same.mpr fun diagnostic _ => .same diagnostic
  have diagnostics := List.rel_append relabeled.diagnostics same
  rw [close, close, relabeled.outcome]
  rcases Output.deliver generation.artifacts processor.writer with ⟨paths, writer⟩
  cases paths with
  | ok paths => exact ⟨rfl, rfl, diagnostics⟩
  | error fault => exact ⟨rfl, rfl, diagnostics⟩

/-- A round under other labels does the same and reports the same, up to the labels in its
warnings. -/
theorem Reachable.onRound_relabel (reachable : Reachable processor)
    (keeps : source.Keeps label handles) {isFinal : Bool} {report : Report H W}
    (reported : processor.onRound source handles isFinal = .ok report) :
    ∃ other, processor.onRound (source.relabel label) handles isFinal = .ok other ∧
      report.Relabeled source label other := by
  by_cases collecting : processor.accumulator.phase = .collecting
  · have collects := reachable.collects collecting
    have start : Tally.Relabeled source label
        ⟨processor.accumulator.entries, .empty, {}⟩ ⟨processor.accumulator.entries, .empty, {}⟩ :=
      ⟨rfl, rfl, .nil⟩
    have relabeled := start.foldl keeps
    have gathered : processor.gather (source.relabel label) handles =
        processor.gather source handles := by
      rw [gather, gather, Accumulator.foldl_absorb_relabel keeps]
    rcases onRound_cases collects reported with
      ⟨rfl, rfl⟩ | ⟨generation, rfl, generated, rfl⟩
    · rw [onRound_gathers collects]
      exact ⟨_, rfl, gathered, congrArg Except.ok relabeled.outcome, relabeled.diagnostics⟩
    · have declarations : (Tally.ofRound (source.relabel label) processor.accumulator.entries
          handles).declarations = _ := relabeled.declarations
      rw [onRound_closes collects, declarations, gathered]
      exact ⟨_, congrArg (Except.map _) generated, close_relabeled relabeled generation⟩
  · rw [onRound_of_closed collecting] at reported ⊢
    cases reported
    exact ⟨_, rfl, rfl, rfl, .nil⟩

end Processor

end Relabeling

/-! ## Histories of visits -/

/-- The sightings of some visits. -/
def Sighting.ofVisits (visits : List (Visit H)) : List (Sighting H) :=
  Sighting.ofRounds (visits.map fun visit => (visit.source, visit.handles))

/-- A declaration that was extracted when its handle was presented last. -/
def Visit.Leaves (visits : List (Visit H)) (declaration : Declaration H) : Prop :=
  ∃ visit ∈ visits, (∃ index, Latest (Sighting.ofVisits visits) index
      (.of visit.source declaration.handle)) ∧
    visit.source.extract declaration.handle = .ok declaration

theorem Sighting.ofVisits_concat (visits : List (Visit H)) (visit : Visit H) :
    Sighting.ofVisits (visits ++ [visit]) =
      Sighting.ofVisits visits ++ visit.handles.map (.of visit.source) := by
  simp [ofVisits, ofRounds]

theorem Sighting.mem_ofVisits {visits : List (Visit H)} {sighting : Sighting H}
    (member : sighting ∈ Sighting.ofVisits visits) :
    ∃ visit ∈ visits, ∃ handle ∈ visit.handles, sighting = .of visit.source handle := by
  obtain ⟨round, listed, seen⟩ := List.mem_flatMap.mp member
  obtain ⟨visit, visited, rfl⟩ := List.mem_map.mp listed
  obtain ⟨handle, presented, same⟩ := List.mem_map.mp seen
  exact ⟨visit, visited, handle, presented, same.symm⟩

/-- The declarations of a round are what the history leaves with its sightings. -/
theorem History.Accumulated.ofRound [DecidableEq H] {history : List (Sighting H)}
    {declarations : List (Declaration H)} (accumulated : Accumulated history declarations)
    (source : Source H) (handles : List H) :
    Accumulated (history ++ handles.map (.of source))
      (Tally.ofRound source declarations handles).declarations :=
  @Accumulated.gather H history _ source handles ⟨declarations, .empty, {}⟩ accumulated

theorem History.Accumulated.leaves {visits : List (Visit H)} {declarations : List (Declaration H)}
    (accumulated : Accumulated (Sighting.ofVisits visits) declarations)
    {declaration : Declaration H} (member : declaration ∈ declarations) :
    Visit.Leaves visits declaration := by
  obtain ⟨sighting, ⟨index, latest⟩, same, result⟩ := (accumulated.latest declaration).mp member
  obtain ⟨visit, visited, handle, presented, rfl⟩ :=
    Sighting.mem_ofVisits (List.mem_of_getElem? latest.seen)
  have handled : handle = declaration.handle := same
  rw [handled] at latest result
  exact ⟨visit, visited, ⟨index, latest⟩, (Source.accept_eq_ok result).1⟩

namespace Processor

variable [DecidableEq H] [Hashable H] [Writer W] {processor : Processor H W}
  {history : List (Sighting H)} {visit : Visit H}

/-- One round adds its sightings to the history of what is accumulated. -/
theorem Reachable.accumulated_onRound (reachable : Reachable processor)
    (collecting : processor.accumulator.phase = .collecting)
    (accumulated : Accumulated history processor.accumulator.entries) {report : Report H W}
    (reported : processor.onRound visit.source visit.handles visit.isFinal = .ok report) :
    Accumulated (history ++ visit.handles.map (.of visit.source))
      report.processor.accumulator.entries := by
  have collects := reachable.collects collecting
  have added := accumulated.ofRound visit.source visit.handles
  rw [← (gather_collects collects visit.source visit.handles).entries] at added
  rcases onRound_cases collects reported with ⟨-, rfl⟩ | ⟨generation, -, -, rfl⟩
  · exact added
  · rw [close_entries]
    exact added

/-- What is accumulated after a run is what the history of all its visits leaves. -/
theorem Reachable.accumulated_follow (reachable : Reachable processor)
    (accumulated : processor.accumulator.phase = .collecting →
      Accumulated history processor.accumulator.entries)
    {visits : List (Visit H)} {reports : List (Report H W)} {reached : Processor H W}
    (followed : processor.follow visits = .ok (reports, reached)) :
    Reachable reached ∧ (reached.accumulator.phase = .collecting →
      Accumulated (history ++ Sighting.ofVisits visits) reached.accumulator.entries) := by
  induction visits generalizing processor history reports with
  | nil =>
    cases followed
    refine ⟨reachable, fun collecting => ?_⟩
    rw [Sighting.ofVisits, List.map_nil, Sighting.ofRounds, List.flatMap_nil, List.append_nil]
    exact accumulated collecting
  | cons visit visits ih =>
    obtain ⟨report, reported, later⟩ := Extraction.bind_eq_ok followed
    obtain ⟨⟨reports, reached⟩, later, last⟩ := Extraction.bind_eq_ok later
    cases last
    have next : Reachable report.processor := .round reachable reported
    have step : report.processor.accumulator.phase = .collecting →
        Accumulated (history ++ visit.handles.map (.of visit.source))
          report.processor.accumulator.entries := by
      intro collecting
      by_cases before : processor.accumulator.phase = .collecting
      · exact reachable.accumulated_onRound before (accumulated before) reported
      · rw [onRound_of_closed before] at reported
        cases reported
        exact absurd collecting before
    obtain ⟨reachable', accumulated'⟩ := ih next step later
    refine ⟨reachable', fun collecting => ?_⟩
    rw [Sighting.ofVisits, List.map_cons, Sighting.ofRounds, List.flatMap_cons, ← List.append_assoc]
    exact accumulated' collecting

/-- The names under which a round reports.  Each handle is remarked on under its own names, of
which the fatal is that of the declaration if there is one; and a failure of the generation has
the name of a declaration that was extracted when its handle was presented last. -/
structure Attributed (processor : Processor H W) (visits : List (Visit H)) (visit : Visit H)
    (report : Report H W) (remarks : List (Option Diagnostic))
    (failures : List GenerationFault) : Prop where
  told : Remarks visit.source processor.accumulator visit.handles remarks
  reported : report.diagnostics.all = remarks.reduceOption ++ failures.map (·.diagnostic)
  named : List.Forall₂ visit.source.Names visit.handles remarks
  readable : List.Forall₂ visit.source.Readable visit.handles remarks
  generated : ∃ failed : List (Declaration H),
    failures.map (·.declaration) = failed.map (·.qualifiedName) ∧
      ∀ declaration ∈ failed, Visit.Leaves (visits ++ [visit]) declaration

theorem Reachable.attributed {visits : List (Visit H)} (reachable : Reachable processor)
    (collecting : processor.accumulator.phase = .collecting)
    (accumulated : Accumulated (Sighting.ofVisits visits) processor.accumulator.entries)
    {report : Report H W}
    (reported : processor.onRound visit.source visit.handles visit.isFinal = .ok report) :
    ∃ remarks failures, Attributed processor visits visit report remarks failures := by
  have collects := reachable.collects collecting
  obtain ⟨remarks, remarked⟩ := Tally.exists_remarked collects visit.source visit.handles
  have added := accumulated.ofRound visit.source visit.handles
  rw [← Sighting.ofVisits_concat] at added
  have named := remarked.told.names
  have readable := named.imp fun handle remark told => Source.Names.readable told
  rcases onRound_cases collects reported with ⟨-, rfl⟩ | ⟨generation, -, generated, rfl⟩
  · exact ⟨remarks, [], remarked.told, remarked.diagnostics.trans (List.append_nil _).symm, named,
      readable, [], rfl, List.forall_mem_nil _⟩
  · obtain ⟨-, failed, among, names⟩ := Code.generate_covers generated
    refine ⟨remarks, generation.failures, remarked.told, ?_, named, readable, failed, names, ?_⟩
    · rw [close_diagnostics, Diagnostics.reportAll, remarked.diagnostics]
    · exact fun declaration member => added.leaves (among.subset member)

/-- In every round of every run, what is reported about a handle that can be read has the name
of its declaration if it is fatal: if the declaration has too many fields, or nothing can be
generated for it.  The warning that the declaration has changed has the source's label for the
handle instead, so it has that name just if the label does.  Apart from these warnings, labels
are seen only where metadata cannot be read: with others for all the other handles, the round
does the same and reports the same. -/
theorem follow_attributes (writer : W) (config : Config) (visits : List (Visit H))
    {reports : List (Report H W)} {reached : Processor H W}
    (followed : (new writer config).follow visits = .ok (reports, reached)) (visit : Visit H)
    {report : Report H W}
    (reported : reached.onRound visit.source visit.handles visit.isFinal = .ok report) :
    (reached.accumulator.phase = .collecting → ∃ remarks failures,
        Attributed reached visits visit report remarks failures) ∧
      (reached.accumulator.phase ≠ .collecting → report.diagnostics.all = []) ∧
      ∀ label, visit.source.Keeps label visit.handles → ∃ other,
        reached.onRound (visit.source.relabel label) visit.handles visit.isFinal = .ok other ∧
          report.Relabeled visit.source label other := by
  have start : (new (H := H) writer config).accumulator.phase = .collecting →
      Accumulated [] (new (H := H) writer config).accumulator.entries := fun _ => .nil
  obtain ⟨reachable, accumulated⟩ := (Reachable.new writer config).accumulated_follow start followed
  refine ⟨fun collecting => ?_, fun closed => ?_, fun label keeps => ?_⟩
  · exact reachable.attributed collecting (accumulated collecting) reported
  · rw [onRound_of_closed closed] at reported
    cases reported
    rfl
  · exact reachable.onRound_relabel keeps reported

/-- A run of one round that gathers. -/
theorem exists_follow_gathering {declarations : List (Declaration H)}
    (collects : processor.accumulator.Collects declarations) (source : Source H)
    (handles : List H) :
    ∃ reports, processor.follow [.gathering source handles] =
      .ok (reports, processor.gather source handles) := by
  have gathers : processor.onRound (Visit.gathering source handles).source
      (Visit.gathering source handles).handles (Visit.gathering source handles).isFinal = _ :=
    onRound_gathers collects source handles
  exact ⟨_, follow_cons gathers []⟩

/-- Labels that name the point, and keep what is said of handles that nothing is under. -/
def pointLabel (handle : Nat) : String :=
  if handle = 0 then "geo::Point" else toString handle

theorem keeps_pointLabel : shiftedPoints.Keeps pointLabel [0, 1] := by
  have readable : (shiftedPoints.extract 0).isOk = true := by decide
  have unread : shiftedPoints.extract 1 = .error (.unavailable "1" (.missing "2")) := by
    decide
  intro handle member name cause failed
  rcases List.mem_pair.mp member with rfl | rfl
  · rw [failed] at readable
    cases readable
  · cases unread.symm.trans failed
    decide

/-- A point with a field, and the same with one that cannot be named: its change is reported
under its handle, and what cannot be generated for it under its name. -/
theorem follow_attributes_points :
    let visits : List (Visit Nat) := [.gathering flawedPoints [0]]
    ∃ reports reached report,
      (new Output.Memory.empty {}).follow visits = .ok (reports, reached) ∧
      reached.onRound shiftedPoints [0, 1] true = .ok report ∧
      report.diagnostics.all.map (fun told => (told.severity, told.declaration)) =
        [(.warning, "0"), (.fatal, "1"), (.fatal, "geo::Point")] ∧
      (∃ remarks failures,
        Attributed reached visits ⟨shiftedPoints, [0, 1], true⟩ report remarks failures) ∧
      ∃ other, reached.onRound (shiftedPoints.relabel pointLabel) [0, 1] true = .ok other ∧
        report.Relabeled shiftedPoints pointLabel other := by
  intro visits
  let fresh : Processor Nat Output.Memory := new .empty {}
  have fresh_collects : fresh.accumulator.Collects [] := .empty
  obtain ⟨reports, followed⟩ := exists_follow_gathering fresh_collects flawedPoints [0]
  have collects := gather_collects fresh_collects flawedPoints [0]
  let tally := Tally.ofRound shiftedPoints (Tally.ofRound flawedPoints [] [0]).declarations [0, 1]
  have failures : (Code.generate tally.declarations {}).toOption.map
      (fun generation => generation.failures.map fun failure =>
        (failure.diagnostic.severity, failure.diagnostic.declaration)) =
        some [(.fatal, "geo::Point")] := by
    decide +kernel
  obtain ⟨generation, generated, names⟩ := Extraction.toOption_map_eq_some failures
  have reported : (fresh.gather flawedPoints [0]).onRound shiftedPoints [0, 1] true =
      .ok (((fresh.gather flawedPoints [0]).gather shiftedPoints [0, 1]).close tally.diagnostics
        tally.outcome generation) := by
    rw [onRound_closes collects]
    exact congrArg (Except.map _) generated
  have told : tally.diagnostics.all.map (fun told => (told.severity, told.declaration)) =
      [(.warning, "0"), (.fatal, "1")] := by
    decide
  obtain ⟨attributed, -, relabeled⟩ := follow_attributes Output.Memory.empty {} visits followed
    ⟨shiftedPoints, [0, 1], true⟩ reported
  refine ⟨_, _, _, followed, reported, ?_, attributed collects.phase,
    relabeled pointLabel keeps_pointLabel⟩
  rw [close_diagnostics, Diagnostics.reportAll, List.map_append, told, List.map_map]
  exact congrArg (_ ++ ·) names

/-- The change of a declaration that can be read is reported under another name than its own. -/
theorem follow_mistakes_label :
    ∃ reports reached report declaration,
      (new Output.Memory.empty {}).follow [.gathering flawedPoints [0]] = .ok (reports, reached) ∧
      reached.onRound shiftedPoints [0] false = .ok report ∧
      shiftedPoints.extract 0 = .ok declaration ∧ declaration.qualifiedName = "geo::Point" ∧
      report.diagnostics.all = [.warning "0"
        "0 was recorded again with a different structure; the latest one is used"] := by
  let fresh : Processor Nat Output.Memory := new .empty {}
  have fresh_collects : fresh.accumulator.Collects [] := .empty
  obtain ⟨reports, followed⟩ := exists_follow_gathering fresh_collects flawedPoints [0]
  have collects := gather_collects fresh_collects flawedPoints [0]
  refine ⟨_, _, _, ⟨0, "geo", "Point", [⟨"self", "i32"⟩]⟩, followed,
    onRound_gathers collects shiftedPoints [0], ?_, ?_, ?_⟩
  · decide
  · decide
  · decide

end Processor

end RecordDerive
