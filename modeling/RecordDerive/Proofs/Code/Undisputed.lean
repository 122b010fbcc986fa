import RecordDerive.Proofs.Code.Allotment

/-!
# Generating without disputes

A declaration fails by itself, or because its file would stand at the path of an earlier one.
So where no two declarations come to files at one path, a generation is the list of what each
of them is rendered to.
-/

namespace RecordDerive.Code

variable {H : Type} {config : Config}

/-- The file that a result is, if it is one. -/
def file? : Except (Stop GenerationFault) Artifact → Option Artifact
  | .error _ => none
  | .ok file => some file

theorem file?_eq_some {result : Except (Stop GenerationFault) Artifact} {file : Artifact} :
    file? result = some file ↔ result = .ok file := by
  cases result <;> simp [file?]

/-- The failure that a result ends with, if it does. -/
def failure? : Except (Stop GenerationFault) Artifact → Option GenerationFault
  | .error (.failed failure) => some failure
  | .error (.aborted _) => none
  | .ok _ => none

theorem failure?_eq_some {result : Except (Stop GenerationFault) Artifact}
    {failure : GenerationFault} :
    failure? result = some failure ↔ result = .error (.failed failure) := by
  rcases result with (failed | aborted) | file <;> simp [failure?]

/-- Whether a result is an abort. -/
def isAborted : Except (Stop GenerationFault) Artifact → Bool
  | .error (.failed _) => false
  | .error (.aborted _) => true
  | .ok _ => false

theorem ne_aborted {result : Except (Stop GenerationFault) Artifact}
    (calm : isAborted result = false) (abort : Abort) : result ≠ .error (.aborted abort) := by
  rintro rfl
  cases calm

/-- Declarations that all come to a file or a failure, no two of them with files at one
path. -/
structure Undisputed (config : Config) (declarations : List (Declaration H)) : Prop where
  renders : ∀ declaration ∈ declarations, ∀ abort,
    render declaration config ≠ .error (.aborted abort)
  apart : declarations.Pairwise fun first second => ∀ file file',
    render first config = .ok file → render second config = .ok file' →
      file.target.same file'.target = false

/-- A file in a course is that of its declaration. -/
theorem Course.Runs.rendered {course : Course H} (runs : Course.Runs config course)
    {declaration : Declaration H} {file : Artifact}
    (member : (declaration, .file file) ∈ course) : render declaration config = .ok file := by
  obtain ⟨before, after, rfl⟩ := List.append_of_mem member
  cases runs.next with
  | file rendered free => exact rendered

/-- Without disputes every declaration has what it is rendered to. -/
theorem Course.Runs.undisputed {course : Course H} (runs : Course.Runs config course)
    (apart : (course.map (·.1)).Pairwise fun first second => ∀ file file',
      render first config = .ok file → render second config = .ok file' →
        file.target.same file'.target = false) :
    course.files = (course.map fun entry => render entry.1 config).filterMap file? ∧
      course.faults = (course.map fun entry => render entry.1 config).filterMap failure? := by
  induction runs with
  | nil => exact ⟨rfl, rfl⟩
  | @snoc course declaration fate runs next ih =>
      rw [List.map_append, List.map_singleton, List.pairwise_append] at apart
      obtain ⟨before, -, across⟩ := apart
      obtain ⟨files, faults⟩ := ih before
      rw [Course.files, Course.faults, List.map_append, List.filterMap_append,
        List.filterMap_append, List.filterMap_append, List.filterMap_append, ← files, ← faults,
        List.map_singleton]
      cases next with
      | file rendered free =>
          rw [rendered]
          exact ⟨rfl, rfl⟩
      | failed stopped =>
          rw [stopped]
          exact ⟨rfl, rfl⟩
      | @taken file taken owner rendered owned same =>
          have listed : owner ∈ course.map (·.1) := List.mem_map_of_mem (f := (·.1)) owned
          have differs := across owner listed declaration (List.mem_singleton.mpr rfl) taken file
            (runs.rendered owned) rendered
          rw [differs] at same
          cases same

/-- Without disputes a generation consists of the renderings of its declarations. -/
theorem generate_of_undisputed {declarations : List (Declaration H)}
    (undisputed : Undisputed config declarations) :
    ∃ generation, generate declarations config = .ok generation ∧
      (∀ file, file ∈ generation.artifacts ↔
        ∃ declaration ∈ declarations, render declaration config = .ok file) ∧
      ∀ failure, failure ∈ generation.failures ↔
        ∃ declaration ∈ declarations, render declaration config = .error (.failed failure) := by
  obtain ⟨generation, generated⟩ := exists_generation undisputed.renders
  obtain ⟨course, runs, rfl, rfl⟩ := Course.exists_runs generated
  obtain ⟨files, faults⟩ := runs.undisputed undisputed.apart
  refine ⟨_, generated, ?_, ?_⟩
  · intro file
    rw [Course.generation_artifacts, files]
    simp [file?_eq_some]
  · intro failure
    rw [Course.generation, faults]
    simp [failure?_eq_some]

end RecordDerive.Code
