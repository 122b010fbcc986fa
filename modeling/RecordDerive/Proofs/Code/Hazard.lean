import RecordDerive.Proofs.Code.Allotment
import RecordDerive.Proofs.Code.Printable
import RecordDerive.Proofs.Code.Promises

/-!
# What rendering aborts on

Names are checked by another set of characters than identifiers are made of, types are read
that have no layout, and tuples are written whose last positions cannot be.  Rendering aborts
in these cases and in no other, and a generation comes to its end where none of its
declarations is such a case.
-/

namespace RecordDerive.Code

open Extraction (mapError_eq_ok)
open Grammar (Phrase)
open Layout

/-! ## Aborting -/

/-- A result that is neither a value nor a fault that could be reported. -/
def Aborts {Cause α : Type} (result : Except (Stop Cause) α) : Prop :=
  ∃ abort, result = .error (.aborted abort)

section Aborts

variable {Cause Other α β : Type}

theorem not_aborts_ok (value : α) : ¬Aborts (.ok value : Except (Stop Cause) α) := by
  rintro ⟨abort, aborted⟩
  cases aborted

theorem not_aborts_fault (cause : Cause) : ¬Aborts (.error (.failed cause) : Except _ α) := by
  rintro ⟨abort, aborted⟩
  cases aborted

theorem aborts_bind {first : Except (Stop Cause) α} {next : α → Except (Stop Cause) β} :
    Aborts (first >>= next) ↔ Aborts first ∨ ∃ value, first = .ok value ∧ Aborts (next value) := by
  cases first with
  | error stop =>
      show Aborts (Except.error stop) ↔ _
      simp [Aborts]
  | ok value =>
      show Aborts (next value) ↔ _
      simp [Aborts]

theorem not_aborts_ite {property : Prop} [Decidable property]
    {left right : Except (Stop Cause) α} (first : ¬Aborts left) (second : ¬Aborts right) :
    ¬Aborts (if property then left else right) := by
  split
  next => exact first
  next => exact second

theorem aborts_map {image : α → β} {result : Except (Stop Cause) α} :
    Aborts (result.map image) ↔ Aborts result := by
  cases result <;> simp [Aborts, Except.map]

theorem aborts_mapError {image : Cause → Other} {result : Except (Stop Cause) α} :
    Aborts (result.mapError (Stop.map image)) ↔ Aborts result := by
  rcases result with (cause | abort) | value <;> simp [Aborts, Except.mapError, Stop.map]

/-- Faults that are reported stop nothing else. -/
theorem not_aborts_failed {image : Other → Cause} {result : Except Other α} :
    ¬Aborts (result.mapError fun cause => Stop.failed (image cause)) := by
  cases result <;> simp [Aborts, Except.mapError]

/-- A list is left at the first item with a fault, so it aborts only if that item does. -/
theorem aborts_mapM {image : α → Except (Stop Cause) β} {items : List α} :
    Aborts (items.mapM image) ↔
      ∃ before item after, items = before ++ item :: after ∧
        (∀ other ∈ before, ∃ value, image other = .ok value) ∧ Aborts (image item) := by
  induction items with
  | nil =>
      refine iff_of_false (not_aborts_ok []) ?_
      rintro ⟨before, item, after, split, -⟩
      simp at split
  | cons first rest ih =>
      rw [List.mapM_cons, aborts_bind]
      simp only [aborts_bind, ih]
      constructor
      · rintro (here | ⟨value, first_read, later | ⟨values, -, last⟩⟩)
        · exact ⟨[], first, rest, rfl, nofun, here⟩
        · obtain ⟨before, item, after, rfl, sound, aborted⟩ := later
          exact ⟨first :: before, item, after, rfl,
            List.forall_mem_cons.mpr ⟨⟨value, first_read⟩, sound⟩, aborted⟩
        · exact absurd last (not_aborts_ok _)
      · rintro ⟨before, item, after, split, sound, aborted⟩
        cases before with
        | nil =>
            cases split
            exact .inl aborted
        | cons other before =>
            cases split
            obtain ⟨⟨value, read⟩, sound⟩ := List.forall_mem_cons.mp sound
            exact .inr ⟨value, read, .inl ⟨before, item, after, rfl, sound, aborted⟩⟩

end Aborts

variable {H : Type} {config : Config} {declaration : Declaration H}

/-! ## One declaration -/

/-- A name that is let through as one of letters and numerals, but is no identifier. -/
structure Field.Misnamed (field : Field) : Prop where
  unnumbered : field.isPositional = false
  named : isName field.name = true
  odd : isIdentifier field.name = false

/-- The declarations whose rendering aborts. -/
inductive Hazard (config : Config) (declaration : Declaration H) : Prop
  /-- The first field that something is wrong with is misnamed. -/
  | name {path runtime : Phrase} {before after : List Field} {field : Field}
      (path_read : declarationPath config.rootPath declaration = .ok path)
      (runtime_read : Phrase.readPath config.runtimePath = .ok runtime)
      (fields : declaration.fields = before ++ field :: after)
      (sound : ∀ other ∈ before, ∃ part, partOf other = .ok part)
      (misnamed : Field.Misnamed field)
  /-- There are more fields than a tuple has positions. -/
  | position {subject : Subject} (read : subjectOf declaration config = .ok subject)
      (selected : config.selected.contains .product = true)
      (many : UInt32.size ≤ declaration.fields.length)
  /-- Something in the file has no layout. -/
  | layout {subject : Subject} {operation : Operation} {phrase : Phrase}
      (read : subjectOf declaration config = .ok subject)
      (accepted : fileFault subject config.selected = none)
      (selected : operation ∈ config.selected) (listed : phrase ∈ operation.phrases subject)
      (odd : Doc.firstUnprintableIn (phrase.docs .inner) ≠ none)

theorem aborts_fieldIdentifier {name : String} :
    Aborts (fieldIdentifier name) ↔ isName name = true ∧ isIdentifier name = false := by
  rw [fieldIdentifier]
  split
  next unnamed => exact iff_of_false (not_aborts_fault _) fun odd => by simp [odd.1] at unnamed
  next named =>
    split
    next odd => exact iff_of_true ⟨_, rfl⟩ ⟨by simpa using named, by simpa using odd⟩
    next identifier =>
      refine iff_of_false ?_ fun odd => by simp [odd.2] at identifier
      exact not_aborts_ite (not_aborts_ok _)
        (not_aborts_ite (not_aborts_fault _) (not_aborts_ok _))

theorem aborts_memberOf {field : Field} : Aborts (memberOf field) ↔ Field.Misnamed field := by
  rw [memberOf]
  split
  next numbered =>
    refine iff_of_false (not_aborts_ite (not_aborts_ok _) (not_aborts_fault _)) fun misnamed => ?_
    rw [misnamed.unnumbered] at numbered
    cases numbered
  next unnumbered =>
    rw [aborts_map, aborts_fieldIdentifier]
    exact ⟨fun odd => ⟨by simpa using unnumbered, odd.1, odd.2⟩,
      fun misnamed => ⟨misnamed.named, misnamed.odd⟩⟩

/-- A type is read or not, so a field only aborts by its name. -/
theorem aborts_partOf {field : Field} : Aborts (partOf field) ↔ Field.Misnamed field := by
  rw [partOf, aborts_bind, aborts_mapError, aborts_memberOf]
  refine or_iff_left ?_
  rintro ⟨member, -, aborted⟩
  rcases aborts_bind.mp aborted with unread | ⟨type, -, last⟩
  · exact not_aborts_failed unread
  · exact not_aborts_ok _ last

/-- The paths are read before the fields, and the fields in their order. -/
theorem aborts_subjectOf :
    Aborts (subjectOf declaration config) ↔
      ∃ path runtime before field after,
        declarationPath config.rootPath declaration = .ok path ∧
        Phrase.readPath config.runtimePath = .ok runtime ∧
        declaration.fields = before ++ field :: after ∧
        (∀ other ∈ before, ∃ part, partOf other = .ok part) ∧ Field.Misnamed field := by
  rw [subjectOf, aborts_bind, or_iff_right not_aborts_failed]
  constructor
  · rintro ⟨path, path_read, aborted⟩
    rw [aborts_bind, or_iff_right not_aborts_failed] at aborted
    obtain ⟨runtime, runtime_read, aborted⟩ := aborted
    rw [aborts_bind, aborts_mapM] at aborted
    rcases aborted with ⟨before, field, after, split, sound, aborted⟩ | ⟨parts, -, last⟩
    · exact ⟨path, runtime, before, field, after, mapError_eq_ok path_read,
        mapError_eq_ok runtime_read, split, sound, aborts_partOf.mp aborted⟩
    · exact absurd last (not_aborts_ok _)
  · rintro ⟨path, runtime, before, field, after, path_read, runtime_read, split, sound, misnamed⟩
    refine ⟨path, by rw [path_read]; rfl, ?_⟩
    rw [aborts_bind, or_iff_right not_aborts_failed]
    refine ⟨runtime, by rw [runtime_read]; rfl, ?_⟩
    rw [aborts_bind, aborts_mapM]
    exact .inl ⟨before, field, after, split, sound, aborts_partOf.mpr misnamed⟩

theorem aborts_fileText {subject : Subject} {selected : List Operation} :
    Aborts (fileText subject selected) ↔
      hasLatePart subject selected = true ∨
      fileFault subject selected = none ∧ ∃ operation ∈ selected,
        ∃ phrase ∈ operation.phrases subject,
          Doc.firstUnprintableIn (phrase.docs .inner) ≠ none := by
  rw [fileText]
  split
  next late => exact iff_of_true ⟨_, rfl⟩ (.inl late)
  next early =>
    rw [or_iff_right early]
    cases fileFault subject selected with
    | some cause => exact iff_of_false (not_aborts_fault _) (by simp)
    | none =>
        have whole := not_congr (firstUnprintableIn_fileDocs_iff subject selected)
        simp only [not_forall, exists_prop] at whole
        rw [and_iff_right rfl, ← whole]
        dsimp only
        cases Doc.firstUnprintableIn (fileDocs subject selected) with
        | some what => exact iff_of_true ⟨_, rfl⟩ (by simp)
        | none => exact iff_of_false (not_aborts_ok _) (by simp)

/-- A rendering aborts on the hazards, and on nothing else. -/
theorem aborts_render : Aborts (render declaration config) ↔ Hazard config declaration := by
  rw [render, aborts_mapError, renderParts, aborts_bind, aborts_subjectOf]
  constructor
  · rintro (misnamed | ⟨subject, read, aborted⟩)
    · obtain ⟨path, runtime, before, field, after, path_read, runtime_read, split, sound, odd⟩ :=
        misnamed
      exact .name path_read runtime_read split sound odd
    · rw [aborts_bind, aborts_fileText] at aborted
      rcases aborted with (late | ⟨accepted, operation, selected, phrase, listed, odd⟩) |
        ⟨body, -, untargeted⟩
      · rw [hasLatePart, Bool.and_eq_true, decide_eq_true_eq] at late
        refine .position read late.1 ?_
        rw [(subjectOf_eq_ok read).1.length_eq]
        exact late.2
      · exact .layout read accepted selected listed odd
      · rw [aborts_bind, or_iff_right not_aborts_failed] at untargeted
        obtain ⟨target, -, last⟩ := untargeted
        exact absurd last (not_aborts_ok _)
  · rintro (⟨path_read, runtime_read, split, sound, odd⟩ | ⟨read, selected, many⟩ |
      ⟨read, accepted, selected, listed, odd⟩)
    · exact .inl ⟨_, _, _, _, _, path_read, runtime_read, split, sound, odd⟩
    · refine .inr ⟨_, read, ?_⟩
      rw [aborts_bind, aborts_fileText]
      refine .inl (.inl ?_)
      rw [(subjectOf_eq_ok read).1.length_eq] at many
      rw [hasLatePart, selected]
      simpa using many
    · refine .inr ⟨_, read, ?_⟩
      rw [aborts_bind, aborts_fileText]
      exact .inl (.inr ⟨accepted, _, selected, _, listed, odd⟩)

/-! ## Many declarations -/

namespace Course

variable {course : Course H}

/-- Nothing in a course has aborted. -/
theorem Runs.not_aborts (runs : Runs config course) {declaration : Declaration H}
    (listed : declaration ∈ course.map (·.1)) : ¬Aborts (render declaration config) := by
  obtain ⟨⟨_, fate⟩, member, rfl⟩ := List.mem_map.mp listed
  obtain ⟨before, after, rfl⟩ := List.append_of_mem member
  rintro ⟨abort, aborted⟩
  cases runs.next with
  | file rendered _ => rw [rendered] at aborted; cases aborted
  | taken rendered _ _ => rw [rendered] at aborted; cases aborted
  | failed stopped => rw [stopped] at aborted; cases aborted

end Course

/-- A rendering comes to a file or a failure on everything but the hazards.  So a generation
comes to an end, with a file or a failure for every declaration, where none of them is one. -/
theorem generate_returns (declarations : List (Declaration H)) (config : Config) :
    (∀ declaration : Declaration H,
      Aborts (render declaration config) ↔ Hazard config declaration) ∧
    ((∃ generation, generate declarations config = .ok generation ∧
      generation.artifacts.length + generation.failures.length = declarations.length) ↔
        ∀ declaration ∈ declarations, ¬Hazard config declaration) := by
  refine ⟨fun declaration => aborts_render, ?_⟩
  constructor
  · rintro ⟨generation, generated, -⟩ declaration listed hazard
    obtain ⟨course, runs, rfl, -⟩ := Course.exists_runs generated
    exact runs.not_aborts listed (aborts_render.mpr hazard)
  · intro safe
    obtain ⟨generation, generated⟩ := exists_generation fun declaration listed abort aborted =>
      safe declaration listed (aborts_render.mp ⟨abort, aborted⟩)
    obtain ⟨course, -, rfl, rfl⟩ := Course.exists_runs generated
    refine ⟨_, generated, ?_⟩
    rw [Course.generation_artifacts, List.length_map]
    exact course.length_files_add_faults

/-- A numeral that is no part of identifiers, and a type without a layout, take the file of a
sound declaration with them. -/
theorem generate_loses_sound :
    let sound : Declaration Nat := ⟨0, "geo", "Point", [⟨"x", "i32"⟩]⟩
    let squared : Declaration Nat := ⟨1, "", "I", [⟨"x²", "u8"⟩]⟩
    let starred : Declaration Nat := ⟨1, "", "I", [⟨"x", "dyn* Send"⟩]⟩
    let unprintable : Abort := .unprintable "Type::Verbatim `dyn * Send`"
    (render sound {}).toOption.isSome = true ∧
      render squared {} = .error (.aborted (.notIdentifier "x²")) ∧
      generate [sound, squared] {} = .error (.notIdentifier "x²") ∧
      render starred {} = .error (.aborted unprintable) ∧
      generate [sound, starred] {} = .error unprintable := by
  decide +kernel

end RecordDerive.Code
