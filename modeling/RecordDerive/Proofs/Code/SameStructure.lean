import RecordDerive.Proofs.Code.Target
import RecordDerive.Proofs.Layout.Printable

/-!
# Declarations of one structure

What is generated for a declaration depends on its qualified name and its fields, apart from
two things: where its file goes, and the name that values are shown with.  The latter is the
end of the qualified name wherever there is a path at all.  So declarations of one structure
are rendered alike, up to their paths.
-/

namespace RecordDerive.Code

open Extraction (bind_eq_ok)
open Layout
open Text (FilePath lastSegment)

variable {H : Type}

/-! ## Renderings without their paths -/

/-- The text of the file for a declaration, wherever it goes. -/
def contentsOf (declaration : Declaration H) (config : Config) :
    Except (Stop RenderFault) String := do
  let subject ← subjectOf declaration config
  let body ← fileText subject config.selected
  return (if config.header then headerOf declaration else "") ++ body

/-- The rendering that has some contents, put where its file goes. -/
def placed (name : String) (contents : Except (Stop RenderFault) String)
    (target : Except TargetFault FilePath) : Except (Stop GenerationFault) Artifact :=
  Except.mapError (.map (.render name)) do
    let contents ← contents
    let target ← target.mapError fun cause => .failed (.target cause)
    return ⟨target, contents⟩

theorem render_eq_placed (declaration : Declaration H) (config : Config) :
    render declaration config =
      placed declaration.qualifiedName (contentsOf declaration config) (targetOf declaration) := by
  unfold render renderParts contentsOf placed
  cases subjectOf declaration config with
  | error stop => rfl
  | ok subject =>
      show Except.mapError _ (fileText subject config.selected >>= _) =
        Except.mapError _ ((fileText subject config.selected >>= _) >>= _)
      cases fileText subject config.selected with
      | error stop => rfl
      | ok body => rfl

/-! ## The name that values are shown with -/

/-- A subject whose values are shown with another name. -/
def Subject.shownAs (subject : Subject) (name : String) : Subject :=
  { subject with displayName := name }

theorem firstUnprintableIn_display (subject : Subject) (name : String) :
    Doc.firstUnprintableIn (Derive.display (subject.shownAs name)).docs =
      Doc.firstUnprintableIn (Derive.display subject).docs := by
  simp [Derive.display, Subject.shownAs, Implementation.docs, Item.docs, Method.docs,
    Derive.displayBody, Statement.docs, Expr.docs, firstUnprintableIn_expansionDocs]

/-- A name that values are shown with has a layout. -/
theorem firstUnprintableIn_fileDocs (subject : Subject) (name : String)
    (selected : List Operation) :
    Doc.firstUnprintableIn (fileDocs (subject.shownAs name) selected) =
      Doc.firstUnprintableIn (fileDocs subject selected) := by
  apply Doc.firstUnprintableIn_flatMap_congr
  intro operation _
  cases operation with
  | equality => rfl
  | hash => rfl
  | display => exact firstUnprintableIn_display subject name
  | product => rfl

/-- Whether there is a text does not depend on the name that values are shown with. -/
theorem fileText_shownAs (subject : Subject) (name : String) (selected : List Operation) :
    (∃ stop, fileText subject selected = .error stop ∧
      fileText (subject.shownAs name) selected = .error stop) ∨
    ∃ text text', fileText subject selected = .ok text ∧
      fileText (subject.shownAs name) selected = .ok text' := by
  have late : hasLatePart (subject.shownAs name) selected = hasLatePart subject selected := rfl
  have fault : fileFault (subject.shownAs name) selected = fileFault subject selected := rfl
  rw [fileText, fileText, late, fault]
  split
  next => exact .inl ⟨_, rfl, rfl⟩
  next =>
    cases fileFault subject selected with
    | some cause => exact .inl ⟨_, rfl, rfl⟩
    | none =>
        dsimp only
        rw [firstUnprintableIn_fileDocs]
        cases Doc.firstUnprintableIn (fileDocs subject selected) with
        | some what => exact .inl ⟨_, rfl, rfl⟩
        | none => exact .inr ⟨_, _, rfl, rfl⟩

/-! ## Declarations of one structure -/

section Alike

variable {first second : Declaration H}

theorem sameStructure_iff :
    first.sameStructure second = true ↔
      first.qualifiedName = second.qualifiedName ∧ first.fields = second.fields := by
  simp [Declaration.sameStructure]

theorem subjectOf_of_sameStructure (same : first.sameStructure second = true) (config : Config) :
    subjectOf second config =
      (subjectOf first config).map (·.shownAs (lastSegment second.name)) := by
  obtain ⟨named, fields⟩ := sameStructure_iff.mp same
  unfold subjectOf declarationPath declarationPathText
  rw [named, fields]
  dsimp only
  cases (Grammar.Phrase.readPath (if config.rootPath.isEmpty then second.qualifiedName
    else config.rootPath ++ Text.separator ++ second.qualifiedName)).mapError _ with
  | error cause => rfl
  | ok path =>
      cases Grammar.Phrase.readPath config.runtimePath with
      | error cause => rfl
      | ok runtime =>
          show (second.fields.mapM partOf >>= _) = Except.map _ (second.fields.mapM partOf >>= _)
          cases second.fields.mapM partOf with
          | error stop => rfl
          | ok parts => rfl

/-- The texts for declarations of one structure are missing for the same cause, or they are
the same if values are shown with the same name. -/
theorem contentsOf_of_sameStructure (same : first.sameStructure second = true)
    (config : Config) :
    (∃ stop, contentsOf first config = .error stop ∧ contentsOf second config = .error stop) ∨
    ∃ text text', contentsOf first config = .ok text ∧ contentsOf second config = .ok text' ∧
      (lastSegment first.name = lastSegment second.name → text = text') := by
  obtain ⟨named, fields⟩ := sameStructure_iff.mp same
  have header : headerOf first = headerOf second := by
    unfold headerOf
    rw [named, fields]
  unfold contentsOf
  rw [subjectOf_of_sameStructure same, header]
  cases found : subjectOf first config with
  | error stop => exact .inl ⟨stop, rfl, rfl⟩
  | ok subject =>
      have shown : subject.displayName = lastSegment first.name := by
        obtain ⟨path, -, found⟩ := bind_eq_ok found
        obtain ⟨runtime, -, found⟩ := bind_eq_ok found
        obtain ⟨parts, -, found⟩ := bind_eq_ok found
        cases found
        rfl
      show (∃ stop, (fileText subject config.selected >>= _) = _ ∧
          (fileText (subject.shownAs (lastSegment second.name)) config.selected >>= _) = _) ∨
        ∃ text text', (fileText subject config.selected >>= _) = _ ∧
          (fileText (subject.shownAs (lastSegment second.name)) config.selected >>= _) = _ ∧ _
      rcases fileText_shownAs subject (lastSegment second.name) config.selected with
        ⟨stop, failed, failed'⟩ | ⟨text, text', written, written'⟩
      · rw [failed, failed']
        exact .inl ⟨stop, rfl, rfl⟩
      · refine .inr ⟨_, _, by rw [written]; rfl, by rw [written']; rfl, ?_⟩
        intro agree
        have unchanged : subject.shownAs (lastSegment second.name) = subject := by
          rw [← agree, ← shown]
          rfl
        rw [unchanged, written] at written'
        rw [Except.ok.inj written']

/-- Declarations of one structure have renderings with the same contents, each put where its
own file goes. -/
theorem exists_placed (same : first.sameStructure second = true) (config : Config) :
    ∃ contents,
      render first config = placed first.qualifiedName contents (targetOf first) ∧
      render second config = placed first.qualifiedName contents (targetOf second) := by
  have named := (sameStructure_iff.mp same).1
  rw [render_eq_placed, render_eq_placed, ← named]
  rcases contentsOf_of_sameStructure same config with
    ⟨stop, failed, failed'⟩ | ⟨text, text', written, written', alike⟩
  · exact ⟨.error stop, by rw [failed], by rw [failed']⟩
  · rw [written, written']
    -- The texts may differ only where one of the declarations has no path; the other's is meant.
    cases found : targetOf first with
    | error fault => exact ⟨.ok text', rfl, rfl⟩
    | ok target =>
        cases found' : targetOf second with
        | error fault => exact ⟨.ok text, rfl, rfl⟩
        | ok target' =>
            have shown : lastSegment first.name = lastSegment second.name := by
              rw [← (targetOf_eq_ok found).lastSegment_qualifiedName,
                ← (targetOf_eq_ok found').lastSegment_qualifiedName, named]
            exact ⟨.ok text, rfl, by rw [alike shown]⟩

/-- A name is found again behind its package. -/
theorem eq_of_qualify_eq {package name name' : String}
    (same : Text.qualify package name = Text.qualify package name') : name = name' := by
  rw [Text.qualify, Text.qualify] at same
  split at same
  next => exact same
  next =>
    apply String.toList_inj.mp
    have letters := congrArg String.toList same
    simpa only [String.toList_append, List.append_cancel_left_eq] using letters

/-- Two declarations are rendered alike: what comes of one differs from what comes of the
other at most by the path of its file, or the lack of one. -/
structure Alike (config : Config) (first second : Declaration H) : Prop where
  contents : ∀ file file', render first config = .ok file → render second config = .ok file' →
    file.contents = file'.contents
  stops : ∀ stop,
    (∀ cause, stop ≠ .failed (.render first.qualifiedName (.target cause))) →
    (render first config = .error stop ↔ render second config = .error stop)
  targets : targetOf first = targetOf second → render first config = render second config
  packages : first.package = second.package → render first config = render second config

theorem placed_eq_ok {name : String} {contents : Except (Stop RenderFault) String}
    {target : Except TargetFault FilePath} {file : Artifact}
    (rendered : placed name contents target = .ok file) : contents = .ok file.contents := by
  cases contents with
  | error stop => cases rendered
  | ok text =>
      cases target with
      | error fault => cases rendered
      | ok path =>
          cases rendered
          rfl

theorem placed_eq_error_iff {name : String} {contents : Except (Stop RenderFault) String}
    {target : Except TargetFault FilePath} {stop : Stop GenerationFault}
    (other : ∀ cause, stop ≠ .failed (.render name (.target cause))) :
    placed name contents target = .error stop ↔
      ∃ inner, contents = .error inner ∧ inner.map (.render name) = stop := by
  cases contents with
  | error inner =>
      constructor
      · intro stopped
        exact ⟨inner, rfl, Except.error.inj stopped⟩
      · rintro ⟨inner', same, rfl⟩
        cases same
        rfl
  | ok text =>
      constructor
      · intro stopped
        cases target with
        | error fault =>
            cases stopped
            exact absurd rfl (other fault)
        | ok path => cases stopped
      · rintro ⟨inner, impossible, -⟩
        cases impossible

theorem alike_of_sameStructure (same : first.sameStructure second = true) (config : Config) :
    Alike config first second := by
  obtain ⟨contents, rendered, rendered'⟩ := exists_placed same config
  have targets : targetOf first = targetOf second →
      render first config = render second config := by
    intro agree
    rw [rendered, rendered', agree]
  refine ⟨?contents, ?stops, targets, ?packages⟩
  case contents =>
    intro file file' found found'
    rw [rendered] at found
    rw [rendered'] at found'
    exact Except.ok.inj ((placed_eq_ok found).symm.trans (placed_eq_ok found'))
  case stops =>
    intro stop other
    rw [rendered, rendered', placed_eq_error_iff other, placed_eq_error_iff other]
  case packages =>
    intro agree
    have named := (sameStructure_iff.mp same).1
    apply targets
    have names : first.name = second.name := by
      rw [Declaration.qualifiedName, Declaration.qualifiedName, agree] at named
      exact eq_of_qualify_eq named
    unfold targetOf
    rw [agree, names, named]

end Alike

end RecordDerive.Code
