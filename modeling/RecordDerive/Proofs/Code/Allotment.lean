import RecordDerive.Proofs.Code.Target
import Mathlib.Control.Monad.Basic

/-!
# Who gets a file

Declarations are dealt with one after the other, and each gets its file or is left without
one for some fault.  A file is refused only where an earlier one has its path, and a path
shows the segments of the package and those of the name.  So no two files are for
declarations that agree in both, and only such a declaration is ever called a duplicate.
-/

namespace RecordDerive.Code

open Extraction (bind_eq_ok toOption_map_eq_some)
open Text (segments)

variable {H : Type}

/-! ## Courses -/

/-- What becomes of a declaration: its file, or the fault it is left without one for. -/
inductive Fate
  | file (artifact : Artifact)
  | fault (failure : GenerationFault)

def Fate.file? : Fate → Option Artifact
  | .file artifact => some artifact
  | .fault _ => none

def Fate.fault? : Fate → Option GenerationFault
  | .file _ => none
  | .fault failure => some failure

/-- Declarations in order, each with what became of it. -/
abbrev Course (H : Type) := List (Declaration H × Fate)

namespace Course

def files (course : Course H) : List Artifact := course.filterMap (·.2.file?)

def faults (course : Course H) : List GenerationFault := course.filterMap (·.2.fault?)

/-- The generation that a course comes to. -/
def generation (course : Course H) : Generation where
  owned := course.filterMap fun entry => entry.2.file?.map (entry.1.qualifiedName, ·)
  failures := course.faults

@[simp] theorem generation_artifacts (course : Course H) :
    course.generation.artifacts = course.files := by
  simp [generation, Generation.artifacts, files, List.map_filterMap, Function.comp_def]

/-- Every declaration of a course has a file or a fault. -/
theorem length_files_add_faults (course : Course H) :
    course.files.length + course.faults.length = course.length := by
  induction course with
  | nil => rfl
  | cons entry course ih =>
      obtain ⟨declaration, fate⟩ := entry
      rw [List.length_cons, ← ih]
      cases fate with
      | file artifact =>
          simp only [files, faults, List.filterMap_cons, Fate.file?, Fate.fault?,
            List.length_cons]
          apply Nat.add_right_comm
      | fault failure =>
          simp only [files, faults, List.filterMap_cons, Fate.file?, Fate.fault?,
            List.length_cons]
          exact (Nat.add_assoc _ _ _).symm

@[simp] theorem generation_append_file (course : Course H) (declaration : Declaration H)
    (file : Artifact) :
    generation (course ++ [(declaration, .file file)]) =
      ⟨course.generation.owned ++ [(declaration.qualifiedName, file)], course.faults⟩ := by
  simp [generation, faults, Fate.file?, Fate.fault?]

@[simp] theorem generation_append_fault (course : Course H) (declaration : Declaration H)
    (failure : GenerationFault) :
    generation (course ++ [(declaration, .fault failure)]) =
      ⟨course.generation.owned, course.faults ++ [failure]⟩ := by
  simp [generation, faults, Fate.file?, Fate.fault?]

/-- The owner of a path is a declaration that has got a file for it. -/
theorem owner?_eq_some {course : Course H} {target : Text.FilePath} {name : String}
    (owned : course.generation.owner? target = some name) :
    ∃ owner taken, (owner, .file taken) ∈ course ∧ taken.target.same target = true ∧
      name = owner.qualifiedName := by
  rw [Generation.owner?, Option.map_eq_some_iff] at owned
  obtain ⟨entry, found, rfl⟩ := owned
  have listed := List.mem_of_find?_eq_some found
  simp only [generation, List.mem_filterMap, Option.map_eq_some_iff] at listed
  obtain ⟨⟨owner, fate⟩, member, taken, filed, rfl⟩ := listed
  cases fate with
  | fault failure => cases filed
  | file artifact =>
      cases filed
      have same := List.find?_some found
      exact ⟨owner, taken, member, same, rfl⟩

/-- A path without an owner was given to no declaration. -/
theorem owner?_eq_none {course : Course H} {target : Text.FilePath}
    (free : course.generation.owner? target = none) {owner : Declaration H} {taken : Artifact}
    (member : (owner, .file taken) ∈ course) : taken.target.same target = false := by
  rw [Generation.owner?, Option.map_eq_none_iff, List.find?_eq_none] at free
  have listed : (owner.qualifiedName, taken) ∈ course.generation.owned :=
    List.mem_filterMap.mpr ⟨(owner, .file taken), member, rfl⟩
  simpa using free _ listed

variable {config : Config}

/-- What becomes of a declaration behind those of a course. -/
inductive Next (config : Config) (course : Course H) (declaration : Declaration H) : Fate → Prop
  | file {artifact : Artifact} (rendered : render declaration config = .ok artifact)
      (free : ∀ owner taken, (owner, .file taken) ∈ course →
        taken.target.same artifact.target = false) :
      Next config course declaration (.file artifact)
  | taken {artifact taken : Artifact} {owner : Declaration H}
      (rendered : render declaration config = .ok artifact)
      (owned : (owner, .file taken) ∈ course)
      (same : taken.target.same artifact.target = true) :
      Next config course declaration (.fault
        (.duplicateTarget artifact.target owner.qualifiedName declaration.qualifiedName))
  | failed {failure : GenerationFault}
      (stopped : render declaration config = .error (.failed failure)) :
      Next config course declaration (.fault failure)

/-- A course in which each declaration has met what follows from those before it. -/
inductive Runs (config : Config) : Course H → Prop
  | nil : Runs config []
  | snoc {course : Course H} {declaration : Declaration H} {fate : Fate}
      (runs : Runs config course) (next : Next config course declaration fate) :
      Runs config (course ++ [(declaration, fate)])

/-- At every place of a course stands what follows from those before it. -/
theorem Runs.next {before after : Course H} {declaration : Declaration H} {fate : Fate}
    (runs : Runs config (before ++ (declaration, fate) :: after)) :
    Next config before declaration fate := by
  generalize whole : before ++ (declaration, fate) :: after = course at runs
  -- Courses grow at their end, so what stands behind the place is taken off from there.
  induction runs generalizing after with
  | nil => simp at whole
  | @snoc course last lastFate runs next ih =>
      rcases List.eq_nil_or_concat after with rfl | ⟨inner, final, rfl⟩
      · have ends := List.append_inj' whole rfl
        cases ends.1
        cases ends.2
        exact next
      · rw [List.concat_eq_append, ← List.cons_append, ← List.append_assoc] at whole
        exact ih (List.append_inj' whole rfl).1

/-- A step of a generation puts one more declaration at the end of its course. -/
theorem step_next {course : Course H} {declaration : Declaration H} {next : Generation}
    (stepped : Generation.step config course.generation declaration = .ok next) :
    ∃ fate, Next config course declaration fate ∧
      next = generation (course ++ [(declaration, fate)]) := by
  unfold Generation.step at stepped
  generalize result : render declaration config = rendered at stepped
  rcases rendered with (failure | abort) | file
  · cases stepped
    refine ⟨.fault failure, .failed result, ?_⟩
    rw [generation_append_fault]
    rfl
  · cases stepped
  · cases stepped
    rw [Generation.add]
    cases owned : course.generation.owner? file.target with
    | none =>
        refine ⟨.file file, .file result fun _ _ member => owner?_eq_none owned member, ?_⟩
        rw [generation_append_file]
        rfl
    | some name =>
        obtain ⟨owner, taken, member, same, rfl⟩ := owner?_eq_some owned
        refine ⟨_, .taken result member same, ?_⟩
        rw [generation_append_fault]
        rfl

/-- A generation comes from a course through its declarations. -/
theorem exists_runs {declarations : List (Declaration H)} {generation : Generation}
    (generated : generate declarations config = .ok generation) :
    ∃ course : Course H, Runs config course ∧ course.map (·.1) = declarations ∧
      generation = course.generation := by
  suffices grown : ∀ start : Course H, Runs config start →
      declarations.foldlM (Generation.step config) start.generation = .ok generation →
      ∃ course, Runs config course ∧ course.map (·.1) = start.map (·.1) ++ declarations ∧
        generation = course.generation from grown [] .nil generated
  clear generated
  -- The course so far holds all that the generation so far knows.
  induction declarations with
  | nil =>
      intro start runs folded
      cases folded
      exact ⟨start, runs, by simp, rfl⟩
  | cons declaration declarations ih =>
      intro start runs folded
      rw [List.foldlM_cons] at folded
      obtain ⟨next, stepped, folded⟩ := bind_eq_ok folded
      obtain ⟨fate, follows, rfl⟩ := step_next stepped
      obtain ⟨course, whole, listed, same⟩ := ih _ (runs.snoc follows) folded
      exact ⟨course, whole, by simpa using listed, same⟩

end Course

/-! ## Files and duplicates -/

/-- A rendering fails with a fault of its own. -/
theorem render_failed {declaration : Declaration H} {config : Config} {failure : GenerationFault}
    (stopped : render declaration config = .error (.failed failure)) :
    ∃ cause, failure = .render declaration.qualifiedName cause := by
  rw [render] at stopped
  cases parts : renderParts declaration config with
  | ok file => simp [parts, Except.mapError] at stopped
  | error stop =>
      rw [parts] at stopped
      cases stop with
      | failed cause =>
          cases stopped
          exact ⟨cause, rfl⟩
      | aborted abort => cases stopped

theorem targeted_of_render {declaration : Declaration H} {config : Config} {file : Artifact}
    (rendered : render declaration config = .ok file) : Targeted declaration file.target :=
  targetOf_eq_ok (target_of_render rendered)

/-- A generation, declaration by declaration: whose files it holds, and who was called a
duplicate of whom. -/
structure Allots (config : Config) (declarations : List (Declaration H))
    (generation : Generation) (course : Course H) : Prop where
  declarations : course.map (·.1) = declarations
  artifacts : generation.artifacts = course.files
  failures : generation.failures = course.faults
  filed : ∀ before declaration file after, course = before ++ (declaration, .file file) :: after →
    render declaration config = .ok file ∧
    ∀ owner taken, (owner, .file taken) ∈ before → ¬owner.SameSegments declaration
  duplicate : ∀ before declaration target first second after,
    course = before ++ (declaration, .fault (.duplicateTarget target first second)) :: after →
    second = declaration.qualifiedName ∧
    ∃ owner taken, (owner, .file taken) ∈ before ∧ first = owner.qualifiedName ∧
      owner.SameSegments declaration ∧
      segments owner.qualifiedName = segments declaration.qualifiedName

/-- No two files are for declarations with the same segments of package and name, and a
declaration is called a duplicate only behind one with the same segments that has got its
file. -/
theorem generate_allots {declarations : List (Declaration H)} {config : Config}
    {generation : Generation} (generated : generate declarations config = .ok generation) :
    ∃ course, Allots config declarations generation course := by
  obtain ⟨course, runs, listed, rfl⟩ := Course.exists_runs generated
  have files {owner : Declaration H} {taken : Artifact} {before after : Course H}
      (split : course = before ++ after) (member : (owner, .file taken) ∈ before) :
      Targeted owner taken.target := by
    obtain ⟨left, right, rfl⟩ := List.append_of_mem member
    rw [split, List.append_assoc] at runs
    cases runs.next with
    | file rendered _ => exact targeted_of_render rendered
  refine ⟨course, listed, course.generation_artifacts, rfl, ?filed, ?duplicate⟩
  case filed =>
    intro before declaration file after split
    have next := (split ▸ runs).next
    cases next with
    | file rendered free =>
        refine ⟨rendered, ?_⟩
        intro owner taken member same
        have shared := ((files split member).same_iff (targeted_of_render rendered)).mpr same
        rw [free owner taken member] at shared
        cases shared
  case duplicate =>
    intro before declaration target first second after split
    have next := (split ▸ runs).next
    cases next with
    | @taken file taken owner rendered owned same =>
        have targeted := targeted_of_render rendered
        have targeted' := files split owned
        have shared := (targeted'.same_iff targeted).mp same
        refine ⟨rfl, owner, taken, owned, rfl, shared, ?_⟩
        rw [targeted.segments_qualifiedName, targeted'.segments_qualifiedName, shared.package,
          shared.name]
    | failed stopped =>
        obtain ⟨cause, impossible⟩ := render_failed stopped
        cases impossible

/-- Two points in one package, the second of which is a duplicate, beside a name that is split
in two ways. -/
theorem generate_allots_points :
    let declarations : List (Declaration Nat) := [⟨0, "geo", "Point", []⟩,
      ⟨1, "geo::Outer", "Inner", []⟩, ⟨2, "geo", "Outer::Inner", []⟩,
      ⟨3, "geo", "Point", [⟨"x", "i32"⟩]⟩]
    ∃ generation course, generate declarations {} = .ok generation ∧
      generation.failures =
        [.duplicateTarget ⟨"geo/Point.rs"⟩ "geo::Point" "geo::Point"] ∧
      Allots {} declarations generation course := by
  intro declarations
  have failures : (generate declarations {}).toOption.map (·.failures) =
      some [.duplicateTarget ⟨"geo/Point.rs"⟩ "geo::Point" "geo::Point"] := by decide +kernel
  obtain ⟨generation, generated, failures⟩ := toOption_map_eq_some failures
  obtain ⟨course, allots⟩ := generate_allots generated
  exact ⟨generation, course, generated, failures, allots⟩

/-- A qualified name that is split at two places has two files, and of two qualified names
that differ by a leading separator one is a duplicate of the other. -/
theorem generate_mistakes_names :
    (∃ generation,
      generate [(⟨0, "geo::Outer", "Inner", []⟩ : Declaration Nat),
        ⟨1, "geo", "Outer::Inner", []⟩] {} = .ok generation ∧
      generation.owned.map (fun entry => (entry.1, entry.2.target)) =
        [("geo::Outer::Inner", ⟨"geo/Outer/Inner.rs"⟩),
          ("geo::Outer::Inner", ⟨"geo/Outer.Inner.rs"⟩)]) ∧
    ∃ generation,
      generate [(⟨0, "", "Point", []⟩ : Declaration Nat), ⟨1, "", "::Point", []⟩]
        { rootPath := "" } = .ok generation ∧
      generation.failures = [.duplicateTarget ⟨"Point.rs"⟩ "Point" "::Point"] := by
  constructor
  · apply toOption_map_eq_some
    decide +kernel
  · apply toOption_map_eq_some
    decide +kernel

end RecordDerive.Code
