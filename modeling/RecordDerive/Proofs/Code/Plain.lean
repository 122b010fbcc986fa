import Mathlib.Data.List.Forall2
import RecordDerive.Proofs.Code.Printable
import RecordDerive.Proofs.Code.Target
import RecordDerive.Proofs.Grammar.Spelling

/-!
# Plain declarations are rendered

A declaration is plain if its name and the types of its fields are made of plain names, and
its fields are named by positions or by identifiers that can be written as members.  None of
the steps of a rendering fails for it: paths and types can be read and laid out, every field
has a member, and there is a path for the file.
-/

namespace RecordDerive.Code

open Grammar Layout

/-! ## Plain names and fields -/

/-- What a field may be named by: a position that can be written, or an identifier that is
none of the keywords that cannot be marked as raw. -/
inductive FieldName (text : String) : Prop
  | position (digits : text ≠ "" ∧ ∀ c ∈ text.toList, c.isDigit = true)
      (small : ofDigits text.toList < 4294967296)
  | identifier (identifier : isAsciiIdentifier text = true) (free : text ∉ reservedNames)

/-- A field whose name can be written as a member, and whose type is plain. -/
structure PlainField (field : Field) : Prop where
  named : FieldName field.name
  typed : ∃ type : PlainType, field.type = type.text

/-- A declaration with plain segments and plain fields, as many as a tuple may have. -/
structure PlainDeclaration {H : Type} (packages names : List String)
    (declaration : Declaration H) : Prop where
  package : declaration.package = Text.join packages
  name : declaration.name = Text.join names
  plain : ∀ segment ∈ packages ++ names, isPlainName segment = true
  named : names ≠ []
  fields : ∀ field ∈ declaration.fields, PlainField field
  few : declaration.arity ≤ maxArity

/-! ## Members -/

section Members

variable {text : String}

theorem isNameCharacter_of_isAsciiContinue {c : Char} (continues : isAsciiContinue c = true) :
    isNameCharacter c = true := by
  have ascii := toNat_lt_of_isAsciiContinue continues
  simp only [isAsciiContinue, Char.isAlphanum, Bool.or_eq_true, decide_eq_true_eq] at continues
  simp only [isNameCharacter, Text.isAlphabetic, Text.isNumeric, ascii, if_true, Bool.or_eq_true,
    decide_eq_true_eq]
  rcases continues with (letter | digit) | line
  · exact .inl (.inr letter)
  · exact .inr digit
  · exact .inl (.inl line)

theorem isName_of_isAsciiIdentifier (identifier : isAsciiIdentifier text = true) :
    isName text = true := by
  obtain ⟨first, rest, spelled, starts, continues⟩ := exists_of_isAsciiIdentifier identifier
  have ascii := toNat_lt_of_isAsciiContinue (isAsciiContinue_of_isAsciiStart starts)
  have front : (first = '_' || Text.isAlphabetic first) = true := by
    simpa [isAsciiStart, Text.isAlphabetic, ascii, or_comm] using starts
  have others : rest.all isNameCharacter = true :=
    List.all_eq_true.mpr fun c member => isNameCharacter_of_isAsciiContinue (continues c member)
  simp [isName, spelled, front, others]

theorem isIdentifier_of_isAsciiIdentifier (identifier : isAsciiIdentifier text = true) :
    isIdentifier text = true := by
  obtain ⟨first, rest, spelled, starts, continues⟩ := exists_of_isAsciiIdentifier identifier
  have front := isIdentifierStart_of_isAsciiStart starts
  have others : rest.all Text.isIdentifierContinue = true :=
    List.all_eq_true.mpr fun c member =>
      isIdentifierContinue_of_isAsciiContinue (continues c member)
  simp [isIdentifier, spelled, front, others]

theorem exists_fieldIdentifier (identifier : isAsciiIdentifier text = true)
    (free : text ∉ reservedNames) : ∃ name, fieldIdentifier text = .ok name := by
  have unreserved : reservedNames.contains text = false := by simpa using free
  rw [fieldIdentifier, isName_of_isAsciiIdentifier identifier,
    isIdentifier_of_isAsciiIdentifier identifier, unreserved]
  cases keywords.contains text with
  | true => exact ⟨_, rfl⟩
  | false => exact ⟨_, rfl⟩

theorem not_isPositional_of_isAsciiIdentifier {field : Field}
    (identifier : isAsciiIdentifier field.name = true) : field.isPositional = false := by
  obtain ⟨first, rest, spelled, starts, -⟩ := exists_of_isAsciiIdentifier identifier
  rw [Field.isPositional, spelled, List.all_cons, (odd_of_isAsciiStart starts).2.2.2.2,
    Bool.false_and, Bool.and_false]

/-- A field that is named by a position or an identifier has a member. -/
theorem exists_memberOf {field : Field} (named : FieldName field.name) :
    ∃ member, memberOf field = .ok member := by
  cases named with
  | position digits small =>
      have positional : field.isPositional = true := by
        simpa [Field.isPositional] using digits
      have small : ofDigits field.name.toList < UInt32.size := small
      refine ⟨.position (UInt32.ofNat (ofDigits field.name.toList)), ?_⟩
      simp only [memberOf, positional, if_true, if_pos small]
  | identifier identifier free =>
      obtain ⟨name, found⟩ := exists_fieldIdentifier identifier free
      refine ⟨.named name, ?_⟩
      rw [memberOf, not_isPositional_of_isAsciiIdentifier identifier, found]
      rfl

end Members

/-! ## Types -/

theorem firstUnprintableIn_pathSteps {arguments : List Phrase}
    (each : ∀ argument ∈ arguments, Doc.firstUnprintableIn (argument.docs .inner) = none)
    (words : List String) :
    ∀ step ∈ pathSteps arguments words, Doc.firstUnprintableIn (step.docs .inner) = none := by
  induction words with
  | nil => exact List.forall_mem_nil _
  | cons first rest ih =>
      cases rest with
      | nil => exact List.forall_mem_singleton.mpr (firstUnprintableIn_step each)
      | cons second others =>
          rw [pathSteps]
          · exact List.forall_mem_cons.mpr ⟨firstUnprintableIn_step (List.forall_mem_nil _), ih⟩
          · simp

/-- The phrase of a plain type has a layout. -/
theorem firstUnprintableIn_plainType (type : PlainType) :
    Doc.firstUnprintableIn (type.phrase.docs .inner) = none := by
  induction type with
  | applied first rest arguments ih =>
      rw [PlainType.phrase]
      apply firstUnprintableIn_path
      apply firstUnprintableIn_pathSteps
      simpa [PlainType.phrases_eq_map] using ih
  | tuple elements ih =>
      rw [PlainType.phrase, Derive.firstUnprintableIn_tupleType]
      simpa [PlainType.phrases_eq_map] using ih
  | array element length ih =>
      have docs : (PlainType.array element length).phrase.docs .inner =
          [.text "["] ++ element.phrase.docs .inner ++ [.text "; "] ++
            [.text (toString length)] ++ [.text "]"] := rfl
      rw [docs]
      simp [ih]

/-- A part whose type does not begin with a lifetime and has a layout. -/
structure PlainPart (part : Part) : Prop where
  starts : part.type.beginsWithLifetime = false
  printable : Doc.firstUnprintableIn (part.type.docs .inner) = none

theorem exists_partOf {field : Field} (plain : PlainField field) :
    ∃ part, partOf field = .ok part ∧ PlainPart part := by
  obtain ⟨member, found⟩ := exists_memberOf plain.named
  obtain ⟨type, typed⟩ := plain.typed
  have read := type.readType
  refine ⟨⟨member, field.name, type.phrase⟩, ?_, ?_, firstUnprintableIn_plainType type⟩
  · rw [partOf, found, typed, read]
    rfl
  · cases type <;> rfl

/-! ## Names -/

theorem uncoloned_of_isName {name : String} (named : isName name = true) :
    ':' ∉ name.toList :=
  not_mem_of_isName (by decide) named

theorem isName_of_isPlainName {name : String} (plain : isPlainName name = true) :
    isName name = true :=
  isName_of_isAsciiIdentifier (Bool.and_eq_true_iff.mp plain).1

theorem isStep_of_isPlainName {name : String} (plain : isPlainName name = true) : isStep name := by
  have free := (Bool.and_eq_true_iff.mp plain).2
  exact .inr (by simpa using free)

theorem segments_join_of_plain {names : List String}
    (plain : ∀ name ∈ names, isPlainName name = true) :
    Text.segments (Text.join names) = names := by
  apply Text.segments_join
  · exact fun name member => ne_empty_of_isName (isName_of_isPlainName (plain name member))
  · exact fun name member => uncoloned_of_isName (isName_of_isPlainName (plain name member))

/-- What generated code refers to for a plain declaration. -/
structure PlainSubject (segments : List String) (subject : Subject) : Prop where
  path : subject.path = .plainPath false ("crate" :: segments)
  runtime : subject.runtime = .plainPath true ["prodgen_runtime"]
  parts : ∀ part ∈ subject.parts, PlainPart part
  few : subject.parts.length ≤ maxArity

theorem PlainSubject.printable {segments : List String} {subject : Subject}
    (plain : PlainSubject segments subject) : subject.Printable where
  path := by
    rw [plain.path]
    exact firstUnprintableIn_plainPath false ("crate" :: segments)
  interface := by
    rw [plain.runtime]
    exact firstUnprintableIn_plainPath true ["prodgen_runtime", "Product"]
  parts part member := (plain.parts part member).printable

/-- Nothing keeps code that refers to plain phrases from being put together and laid out. -/
theorem PlainSubject.exists_fileText {segments : List String} {subject : Subject}
    (plain : PlainSubject segments subject) (selected : List Operation) :
    ∃ body, fileText subject selected = .ok body := by
  have early : hasLatePart subject selected = false := by
    have size : UInt32.size = 4294967296 := rfl
    have few := plain.few
    have late : ¬UInt32.size ≤ subject.parts.length := by
      rw [maxArity] at few
      omega
    simp [hasLatePart, late]
  have starts : subject.parts.head?.any (·.type.beginsWithLifetime) = false := by
    have each := plain.parts
    cases parts : subject.parts with
    | nil => rfl
    | cons first rest =>
        rw [parts] at each
        exact (each first List.mem_cons_self).starts
  have faultless : fileFault subject selected = none := by
    have own : isPathOnly subject.path = false := by
      rw [plain.path]
      rfl
    have other : isPathOnly subject.runtime = false := by
      rw [plain.runtime]
      rfl
    simp [fileFault, own, other, starts]
  have printable := plain.printable
  refine ⟨Layout.layout (fileDocs subject selected), ?_⟩
  simp [fileText, early, faultless, printable.fileDocs selected]

namespace PlainDeclaration

variable {H : Type} {packages names : List String} {declaration : Declaration H}

theorem segments_package (plain : PlainDeclaration packages names declaration) :
    Text.segments declaration.package = packages := by
  rw [plain.package, segments_join_of_plain (List.forall_mem_append.mp plain.plain).1]

theorem segments_name (plain : PlainDeclaration packages names declaration) :
    Text.segments declaration.name = names := by
  rw [plain.name, segments_join_of_plain (List.forall_mem_append.mp plain.plain).2]

theorem qualifiedName (plain : PlainDeclaration packages names declaration) :
    declaration.qualifiedName = Text.join (packages ++ names) := by
  rw [Declaration.qualifiedName, plain.package, plain.name]
  apply Text.qualify_join plain.named
  intro segment member
  exact ne_empty_of_isName
    (isName_of_isPlainName (plain.plain segment (List.mem_append_left names member)))

/-- The path to a plain declaration is read as all of its segments below the root. -/
theorem declarationPath (plain : PlainDeclaration packages names declaration) :
    Code.declarationPath "crate" declaration =
      .ok (.plainPath false ("crate" :: (packages ++ names))) := by
  have text : declarationPathText "crate" declaration =
      Text.join ("crate" :: (packages ++ names)) := by
    rw [declarationPathText, plain.qualifiedName]
    cases segments : packages ++ names with
    | nil => exact absurd (List.append_eq_nil_iff.mp segments).2 plain.named
    | cons first rest => rfl
  have read : Phrase.readPath (Text.join ("crate" :: (packages ++ names))) =
      .ok (.plainPath false ("crate" :: (packages ++ names))) := by
    apply readPath_join (List.cons_ne_nil _ _)
    · refine List.forall_mem_cons.mpr ⟨by decide, fun segment member => ?_⟩
      exact (Bool.and_eq_true_iff.mp (plain.plain segment member)).1
    · refine List.forall_mem_cons.mpr ⟨.inl (by decide), fun segment member => ?_⟩
      exact isStep_of_isPlainName (plain.plain segment member)
  rw [Code.declarationPath, text, read]
  rfl

theorem runtimePath :
    Phrase.readPath "::prodgen_runtime" = .ok (.plainPath true ["prodgen_runtime"]) := by
  have read : Phrase.readPath (Text.separator ++ Text.join ["prodgen_runtime"]) =
      .ok (.plainPath true ["prodgen_runtime"]) := by
    apply readPath_rooted (List.cons_ne_nil _ _)
    · exact List.forall_mem_singleton.mpr (by decide)
    · exact List.forall_mem_singleton.mpr (.inr (by decide))
  exact read

theorem exists_subjectOf (plain : PlainDeclaration packages names declaration) :
    ∃ subject, subjectOf declaration {} = .ok subject ∧
      PlainSubject (packages ++ names) subject := by
  obtain ⟨parts, found, length, partsPlain⟩ :=
    Extraction.exists_mapM fun field member => exists_partOf (plain.fields field member)
  have placed := plain.declarationPath
  have ran := runtimePath
  let subject : Subject :=
    ⟨.plainPath false ("crate" :: (packages ++ names)), .plainPath true ["prodgen_runtime"],
      declaration.qualifiedName, Text.lastSegment declaration.name, parts⟩
  refine ⟨subject, ?_, rfl, rfl, partsPlain, length ▸ plain.few⟩
  rw [subjectOf, placed, ran, found]
  rfl

theorem mapM_checkedSegment_of_plain {names : List String}
    (plain : ∀ name ∈ names, isPlainName name = true) :
    names.mapM checkedSegment = .ok names := by
  induction names with
  | nil => rfl
  | cons first rest ih =>
      obtain ⟨here, later⟩ := List.forall_mem_cons.mp plain
      rw [List.mapM_cons, checkedSegment, isName_of_isPlainName here, ih later]
      rfl

/-- There is a path for the file of every plain declaration. -/
theorem exists_targetOf (plain : PlainDeclaration packages names declaration) :
    ∃ target, targetOf declaration = .ok target := by
  obtain ⟨packagesPlain, namesPlain⟩ := List.forall_mem_append.mp plain.plain
  have some : names.isEmpty = false := by simpa using plain.named
  rw [targetOf, plain.segments_package, plain.segments_name,
    mapM_checkedSegment_of_plain packagesPlain, mapM_checkedSegment_of_plain namesPlain]
  simp only [bind, Except.bind, some]
  exact ⟨_, rfl⟩

/-- There is a file for every plain declaration. -/
theorem exists_render (plain : PlainDeclaration packages names declaration) :
    ∃ file, render declaration {} = .ok file := by
  obtain ⟨subject, found, subjectPlain⟩ := plain.exists_subjectOf
  obtain ⟨body, laidOut⟩ := subjectPlain.exists_fileText ({} : Config).selected
  obtain ⟨target, placed⟩ := plain.exists_targetOf
  refine ⟨⟨target, headerOf declaration ++ body⟩, ?_⟩
  rw [render, renderParts, found]
  simp only [bind, Except.bind, laidOut, placed]
  rfl

end PlainDeclaration

/-! ## Many declarations -/

section Generate

variable {H : Type} {declarations : List (Declaration H)} {config : Config}

theorem Generation.owner?_eq_none {generation : Generation} {target : Text.FilePath} :
    generation.owner? target = none ↔
      ∀ file ∈ generation.artifacts, file.target.same target = false := by
  simp only [Generation.owner?, Option.map_eq_none_iff, List.find?_eq_none, Generation.artifacts,
    List.forall_mem_map, Bool.not_eq_true]

/-- Where every declaration is rendered and no two files share a path, all files are
generated. -/
theorem generate_of_rendered {files : List Artifact}
    (rendered : List.Forall₂ (fun declaration file => render declaration config = .ok file)
      declarations files)
    (distinct : files.Pairwise fun first second => first.target.same second.target = false) :
    ∃ generation, generate declarations config = .ok generation ∧
      generation.artifacts = files ∧ generation.failures = [] := by
  suffices grown : ∀ start : Generation, start.failures = [] →
      (start.artifacts ++ files).Pairwise (fun first second =>
        first.target.same second.target = false) →
      ∃ generation, declarations.foldlM (Generation.step config) start = .ok generation ∧
        generation.artifacts = start.artifacts ++ files ∧ generation.failures = [] from
    grown .empty rfl distinct
  clear distinct
  induction rendered with
  | nil =>
      intro start complete _
      exact ⟨start, rfl, (List.append_nil _).symm, complete⟩
  | @cons declaration file declarations files here later ih =>
      intro start complete distinct
      have free : start.owner? file.target = none :=
        Generation.owner?_eq_none.mpr fun other member =>
          (List.pairwise_append.mp distinct).2.2 other member file List.mem_cons_self
      let next : Generation :=
        ⟨start.owned ++ [(declaration.qualifiedName, file)], start.failures⟩
      have added : start.add declaration.qualifiedName file = next := by
        rw [Generation.add, free]
      have stepped : Generation.step config start declaration = .ok next := by
        rw [← added]
        unfold Generation.step
        rw [here]
      have artifacts : next.artifacts = start.artifacts ++ [file] := by
        simp [next, Generation.artifacts]
      rw [List.append_cons, ← artifacts] at distinct
      obtain ⟨generation, folded, all, none⟩ := ih next complete distinct
      refine ⟨generation, ?_, ?_, none⟩
      · rw [List.foldlM_cons, stepped]
        exact folded
      · rw [all, artifacts, List.append_assoc, List.singleton_append]

theorem pairwise_of_forall₂ {α β : Type} {relation : α → β → Prop} {apart : α → α → Prop}
    {apart' : β → β → Prop} (carried : ∀ {first second : α} {first' second' : β},
      relation first first' → relation second second' → apart first second → apart' first' second')
    {items : List α} {results : List β} (related : List.Forall₂ relation items results)
    (distinct : items.Pairwise apart) : results.Pairwise apart' := by
  rw [List.pairwise_iff_getElem] at distinct ⊢
  intro i j here there before
  have length := related.length_eq
  exact carried (related.get (length ▸ here) here) (related.get (length ▸ there) there)
    (distinct i j (length ▸ here) (length ▸ there) before)

/-- Plain declarations that differ in their packages or names all have their files. -/
theorem exists_generate_of_plain
    (plain : ∀ declaration ∈ declarations, ∃ packages names,
      PlainDeclaration packages names declaration)
    (distinct : declarations.Pairwise fun first second => ¬first.SameSegments second) :
    ∃ files generation,
      List.Forall₂ (fun declaration file => render declaration {} = .ok file) declarations files ∧
      generate declarations {} = .ok generation ∧ generation.artifacts = files ∧
        generation.failures = [] := by
  obtain ⟨files, rendered⟩ : ∃ files, List.Forall₂
      (fun declaration file => render declaration {} = .ok file) declarations files := by
    clear distinct
    induction declarations with
    | nil => exact ⟨[], .nil⟩
    | cons first rest ih =>
        obtain ⟨⟨packages, names, here⟩, later⟩ := List.forall_mem_cons.mp plain
        obtain ⟨file, found⟩ := here.exists_render
        obtain ⟨files, all⟩ := ih later
        exact ⟨file :: files, .cons found all⟩
  have apart : files.Pairwise fun first second => first.target.same second.target = false := by
    refine pairwise_of_forall₂ ?_ rendered distinct
    intro first second file other here there differ
    have targeted := targetOf_eq_ok (target_of_render here)
    have targeted' := targetOf_eq_ok (target_of_render there)
    exact Bool.eq_false_iff.mpr (mt (targeted.same_iff targeted').mp differ)
  obtain ⟨generation, generated, artifacts, complete⟩ := generate_of_rendered rendered apart
  exact ⟨files, generation, rendered, generated, artifacts, complete⟩

end Generate

end RecordDerive.Code
