import RecordDerive.Proofs.Code.Isolation
import RecordDerive.Proofs.Code.Undisputed

/-!
# What a generation consists of

A generation can be told without the paths that were taken on the way: a declaration has a
file if it is rendered to one and none before it is rendered to a file at the same path,
whether that one has got it or not.  All others have a fault, and a declaration with a fault
might as well not be there.
-/

namespace RecordDerive

/-- What the items of a list come to, each seen with those before it. -/
def collect {α β : Type} (outcome : List α → α → Option β) (earlier : List α) : List α → List β
  | [] => []
  | item :: later => (outcome earlier item).toList ++ collect outcome (earlier ++ [item]) later

section Collect

variable {α β : Type} {outcome : List α → α → Option β}

theorem collect_append (earlier items more : List α) :
    collect outcome earlier (items ++ more) =
      collect outcome earlier items ++ collect outcome (earlier ++ items) more := by
  induction items generalizing earlier with
  | nil => simp [collect]
  | cons item items ih =>
      rw [List.cons_append, collect, collect, ih, List.append_assoc, List.append_assoc]
      rfl

/-- What was before does not matter as far as no item sees a difference. -/
theorem collect_congr {earlier earlier' : List α}
    (alike : ∀ between item, outcome (earlier ++ between) item = outcome (earlier' ++ between) item)
    (items : List α) : collect outcome earlier items = collect outcome earlier' items := by
  induction items generalizing earlier earlier' with
  | nil => rfl
  | cons item items ih =>
      have here := alike [] item
      rw [List.append_nil, List.append_nil] at here
      rw [collect, collect, here]
      apply congrArg ((outcome earlier' item).toList ++ ·)
      apply ih
      intro between later
      rw [List.append_assoc, List.append_assoc]
      exact alike ([item] ++ between) later

end Collect

namespace Code

variable {H : Type} {config : Config}

/-! ## Files and faults -/

/-- Whether a declaration is rendered to a file at a path. -/
def rendersAt (config : Config) (target : Text.FilePath) (declaration : Declaration H) : Bool :=
  (file? (render declaration config)).any (·.target.same target)

/-- The first of some declarations that is rendered to a file at a path. -/
def firstAt? (config : Config) (declarations : List (Declaration H)) (target : Text.FilePath) :
    Option (Declaration H) :=
  declarations.find? (rendersAt config target)

/-- The file that a declaration has behind earlier ones: what it is rendered to, if none of them
is rendered to a file at the same path. -/
def fileBehind? (config : Config) (earlier : List (Declaration H)) (declaration : Declaration H) :
    Option Artifact :=
  (file? (render declaration config)).filter fun file =>
    (firstAt? config earlier file.target).isNone

/-- The fault that leaves a declaration without a file behind earlier ones: its own, or that the
first of them has the path. -/
def faultBehind? (config : Config) (earlier : List (Declaration H)) (declaration : Declaration H) :
    Option GenerationFault :=
  (failure? (render declaration config)).or <|
    (file? (render declaration config)).bind fun file =>
      (firstAt? config earlier file.target).map fun first =>
        .duplicateTarget file.target first.qualifiedName declaration.qualifiedName

section Behind

variable {earlier : List (Declaration H)} {declaration : Declaration H} {file : Artifact}
  {failure : GenerationFault}

theorem fileBehind?_of_render (rendered : render declaration config = .ok file) :
    fileBehind? config earlier declaration =
      if (firstAt? config earlier file.target).isNone then some file else none := by
  rw [fileBehind?, rendered]
  rfl

theorem faultBehind?_of_render (rendered : render declaration config = .ok file) :
    faultBehind? config earlier declaration =
      (firstAt? config earlier file.target).map fun first =>
        .duplicateTarget file.target first.qualifiedName declaration.qualifiedName := by
  rw [faultBehind?, rendered]
  rfl

theorem faultBehind?_of_failed (stopped : render declaration config = .error (.failed failure)) :
    faultBehind? config earlier declaration = some failure := by
  rw [faultBehind?, stopped]
  rfl

/-- A declaration that does not abort has its own file or a fault, and not both. -/
theorem file_or_fault (earlier : List (Declaration H))
    (sound : ∀ abort, render declaration config ≠ .error (.aborted abort)) :
    (∃ file, render declaration config = .ok file ∧
      firstAt? config earlier file.target = none ∧
      fileBehind? config earlier declaration = some file ∧
      faultBehind? config earlier declaration = none) ∨
    ∃ failure, fileBehind? config earlier declaration = none ∧
      faultBehind? config earlier declaration = some failure := by
  rcases rendered : render declaration config with (failure | abort) | file
  · refine .inr ⟨failure, ?_, faultBehind?_of_failed rendered⟩
    rw [fileBehind?, rendered]
    rfl
  · exact absurd rendered (sound abort)
  · rw [fileBehind?_of_render rendered, faultBehind?_of_render rendered]
    cases found : firstAt? config earlier file.target with
    | none => exact .inl ⟨file, rfl, found, rfl, rfl⟩
    | some first => exact .inr ⟨_, rfl, rfl⟩

theorem firstAt?_append (first second : List (Declaration H)) (target : Text.FilePath) :
    firstAt? config (first ++ second) target =
      (firstAt? config first target).or (firstAt? config second target) :=
  List.find?_append

/-- It makes no difference how a path is spelled. -/
theorem firstAt?_congr {target target' : Text.FilePath} (same : target.same target' = true)
    (declarations : List (Declaration H)) :
    firstAt? config declarations target = firstAt? config declarations target' := by
  have components := beq_iff_eq.mp same
  have alike : rendersAt (H := H) config target = rendersAt config target' := by
    funext declaration
    simp only [rendersAt, Text.FilePath.same, components]
  rw [firstAt?, firstAt?, alike]

theorem firstAt?_singleton (rendered : render declaration config = .ok file)
    (target : Text.FilePath) :
    firstAt? config [declaration] target =
      if file.target.same target then some declaration else none := by
  rw [firstAt?, List.find?_singleton, rendersAt, rendered]
  rfl

/-- A declaration with a fault is never the first at a path. -/
theorem firstAt?_concat_of_fault
    (fault : faultBehind? config earlier declaration = some failure) (target : Text.FilePath) :
    firstAt? config (earlier ++ [declaration]) target = firstAt? config earlier target := by
  rw [firstAt?_append]
  cases rendered : render declaration config with
  | error stop =>
      have nowhere : firstAt? config [declaration] target = none := by
        rw [firstAt?, List.find?_singleton, rendersAt, rendered]
        rfl
      rw [nowhere]
      exact Option.or_none
  | ok file =>
      rw [faultBehind?_of_render rendered] at fault
      obtain ⟨first, found, -⟩ := Option.map_eq_some_iff.mp fault
      rw [firstAt?_singleton rendered]
      split
      next same =>
        rw [← firstAt?_congr same, found]
        rfl
      next => exact Option.or_none

end Behind

/-! ## Generations -/

/-- The declarations that a generation has files for are the first at their paths. -/
def Owned (config : Config) (earlier : List (Declaration H)) (generation : Generation) : Prop :=
  ∀ target, generation.owner? target = (firstAt? config earlier target).map (·.qualifiedName)

section Steps

variable {earlier : List (Declaration H)} {declaration : Declaration H} {generation : Generation}
  {file : Artifact} {failure : GenerationFault}

theorem step_of_fault (owned : Owned config earlier generation)
    (fault : faultBehind? config earlier declaration = some failure) :
    generation.step config declaration =
      .ok { generation with failures := generation.failures ++ [failure] } := by
  unfold Generation.step
  rcases rendered : render declaration config with (failed | abort) | file
  · rw [faultBehind?_of_failed rendered] at fault
    cases fault
    rfl
  · rw [faultBehind?, rendered] at fault
    cases fault
  · rw [faultBehind?_of_render rendered] at fault
    obtain ⟨first, found, rfl⟩ := Option.map_eq_some_iff.mp fault
    have taken : generation.owner? file.target = some first.qualifiedName := by
      rw [owned, found]
      rfl
    dsimp only
    rw [Generation.add, taken]

theorem Owned.of_fault (owned : Owned config earlier generation)
    (fault : faultBehind? config earlier declaration = some failure) :
    Owned config (earlier ++ [declaration])
      { generation with failures := generation.failures ++ [failure] } := by
  intro target
  rw [firstAt?_concat_of_fault fault]
  exact owned target

theorem step_of_file (owned : Owned config earlier generation)
    (rendered : render declaration config = .ok file)
    (free : firstAt? config earlier file.target = none) :
    generation.step config declaration =
      .ok { generation with owned := generation.owned ++ [(declaration.qualifiedName, file)] } := by
  have vacant : generation.owner? file.target = none := by
    rw [owned, free]
    rfl
  unfold Generation.step
  rw [rendered]
  dsimp only
  rw [Generation.add, vacant]

theorem Owned.of_file (owned : Owned config earlier generation)
    (rendered : render declaration config = .ok file) :
    Owned config (earlier ++ [declaration])
      { generation with owned := generation.owned ++ [(declaration.qualifiedName, file)] } := by
  intro target
  have before := owned target
  rw [Generation.owner?] at before
  rw [Generation.owner?, List.find?_append, Option.map_or, before, firstAt?_append, Option.map_or,
    firstAt?_singleton rendered, List.find?_singleton]
  cases file.target.same target <;> rfl

end Steps

/-- A generation takes the declarations one by one to what they come to behind the others. -/
theorem exists_foldlM_step {declarations earlier : List (Declaration H)} {generation : Generation}
    (sound : ∀ declaration ∈ declarations, ∀ abort,
      render declaration config ≠ .error (.aborted abort))
    (owned : Owned config earlier generation) :
    ∃ last, declarations.foldlM (Generation.step config) generation = .ok last ∧
      last.artifacts = generation.artifacts ++ collect (fileBehind? config) earlier declarations ∧
      last.failures =
        generation.failures ++ collect (faultBehind? config) earlier declarations := by
  induction declarations generalizing earlier generation with
  | nil => exact ⟨generation, rfl, by simp [collect], by simp [collect]⟩
  | cons declaration declarations ih =>
      obtain ⟨here, later⟩ := List.forall_mem_cons.mp sound
      rw [List.foldlM_cons, collect, collect]
      rcases file_or_fault earlier here with
        ⟨file, rendered, free, filed, faultless⟩ | ⟨failure, fileless, fault⟩
      · obtain ⟨last, folded, artifacts, failures⟩ := ih later (owned.of_file rendered)
        rw [step_of_file owned rendered free, filed, faultless]
        refine ⟨last, folded, ?_, failures⟩
        rw [artifacts, ← List.append_assoc]
        simp [Generation.artifacts]
      · obtain ⟨last, folded, artifacts, failures⟩ := ih later (owned.of_fault fault)
        rw [step_of_fault owned fault, fileless, fault]
        refine ⟨last, folded, artifacts, ?_⟩
        rw [failures, List.append_assoc]
        rfl

/-- What is generated is the file of every declaration that is the first to be rendered to its
path, and a fault for each of the others. -/
theorem exists_generate {declarations : List (Declaration H)}
    (sound : ∀ declaration ∈ declarations, ∀ abort,
      render declaration config ≠ .error (.aborted abort)) :
    ∃ generation, generate declarations config = .ok generation ∧
      generation.artifacts = collect (fileBehind? config) [] declarations ∧
      generation.failures = collect (faultBehind? config) [] declarations := by
  have nothing : Owned config ([] : List (Declaration H)) .empty := fun _ => rfl
  exact exists_foldlM_step sound nothing

/-- What is generated for declarations is the same without one that has a fault. -/
theorem collect_without {before : List (Declaration H)} {declaration : Declaration H}
    {failure : GenerationFault} (fault : faultBehind? config before declaration = some failure)
    (after : List (Declaration H)) :
    collect (fileBehind? config) (before ++ [declaration]) after =
        collect (fileBehind? config) before after ∧
      collect (faultBehind? config) (before ++ [declaration]) after =
        collect (faultBehind? config) before after := by
  have alike (between : List (Declaration H)) (target : Text.FilePath) :
      firstAt? config (before ++ [declaration] ++ between) target =
        firstAt? config (before ++ between) target := by
    rw [firstAt?_append, firstAt?_concat_of_fault fault, ← firstAt?_append]
  constructor
  · apply collect_congr
    intro between later
    simp only [fileBehind?, alike]
  · apply collect_congr
    intro between later
    simp only [faultBehind?, alike]

/-- The declaration that is first at a path has its file there. -/
theorem exists_owner {declarations : List (Declaration H)} {target : Text.FilePath}
    {owner : Declaration H} (found : firstAt? config declarations target = some owner) :
    ∃ before after taken, declarations = before ++ owner :: after ∧
      fileBehind? config before owner = some taken ∧ taken.target.same target = true := by
  obtain ⟨here, before, after, split, passed⟩ := List.find?_eq_some_iff_append.mp found
  obtain ⟨taken, rendered, same⟩ := (Option.any_eq_true _ _).mp here
  have free : firstAt? config before taken.target = none := by
    rw [firstAt?_congr same]
    exact List.find?_eq_none.mpr fun other listed => by simpa using passed other listed
  refine ⟨before, after, taken, split, ?_, same⟩
  rw [fileBehind?_of_render (file?_eq_some.mp rendered), free]
  rfl

/-- A declaration is called a duplicate of the one whose file is at its path. -/
theorem exists_owner_of_duplicate {earlier : List (Declaration H)} {declaration : Declaration H}
    {target : Text.FilePath} {first second : String}
    (fault : faultBehind? config earlier declaration =
      some (.duplicateTarget target first second)) :
    second = declaration.qualifiedName ∧
      (∃ file, render declaration config = .ok file ∧ file.target = target) ∧
      ∃ before owner after taken, earlier = before ++ owner :: after ∧
        fileBehind? config before owner = some taken ∧ taken.target.same target = true ∧
        first = owner.qualifiedName := by
  rcases rendered : render declaration config with (failure | abort) | file
  · rw [faultBehind?_of_failed rendered] at fault
    cases fault
    obtain ⟨cause, impossible⟩ := render_failed rendered
    cases impossible
  · rw [faultBehind?, rendered] at fault
    cases fault
  · rw [faultBehind?_of_render rendered] at fault
    obtain ⟨owner, found, same⟩ := Option.map_eq_some_iff.mp fault
    cases same
    obtain ⟨before, after, taken, split, filed, here⟩ := exists_owner found
    exact ⟨rfl, ⟨file, rfl, rfl⟩, before, owner, after, taken, split, filed, here, rfl⟩

/-- A generation as a list of files and one of faults, in the order of the declarations. -/
structure Splits (config : Config) (declarations : List (Declaration H))
    (generation : Generation) : Prop where
  artifacts : generation.artifacts = collect (fileBehind? config) [] declarations
  failures : generation.failures = collect (faultBehind? config) [] declarations
  length : generation.artifacts.length + generation.failures.length = declarations.length
  distinct : generation.artifacts.Pairwise fun first second =>
    first.target.same second.target = false
  duplicate : ∀ before declaration after target first second,
    declarations = before ++ declaration :: after →
    faultBehind? config before declaration = some (.duplicateTarget target first second) →
    second = declaration.qualifiedName ∧
      (∃ file, render declaration config = .ok file ∧ file.target = target) ∧
      ∃ left owner right taken, before = left ++ owner :: right ∧
        fileBehind? config left owner = some taken ∧ taken.target.same target = true ∧
        first = owner.qualifiedName
  /-- A declaration with a fault takes nothing from the others. -/
  without : ∀ before declaration after failure, declarations = before ++ declaration :: after →
    faultBehind? config before declaration = some failure →
    ∃ shorter, generate (before ++ after) config = .ok shorter ∧
      shorter.artifacts = generation.artifacts ∧
      Inserted [failure] shorter.failures generation.failures

/-- Every declaration that is the first to be rendered to its path has its file, every other one
has its fault, and the generation is the two lists of these. -/
theorem generate_splits {declarations : List (Declaration H)}
    (sound : ∀ declaration ∈ declarations, ∀ abort,
      render declaration config ≠ .error (.aborted abort)) :
    ∃ generation, generate declarations config = .ok generation ∧
      Splits config declarations generation := by
  obtain ⟨generation, generated, artifacts, failures⟩ := exists_generate sound
  refine ⟨generation, generated, artifacts, failures, ?length, ?distinct, ?duplicate, ?without⟩
  case length =>
    obtain ⟨course, -, rfl, rfl⟩ := Course.exists_runs generated
    rw [Course.generation_artifacts, List.length_map]
    exact course.length_files_add_faults
  case distinct =>
    exact (apart_of_generate generated).distinct.imp fun differ => beq_eq_false_iff_ne.mpr differ
  case duplicate =>
    intro before declaration after target first second _ fault
    exact exists_owner_of_duplicate fault
  case without =>
    rintro before declaration after failure rfl fault
    have others : ∀ other ∈ before ++ after, ∀ abort,
        render other config ≠ .error (.aborted abort) := by
      intro other listed
      rw [List.mem_append] at listed
      exact sound other (by simpa using listed.imp_right .inr)
    obtain ⟨shorter, generated', artifacts', failures'⟩ := exists_generate others
    obtain ⟨files, faults⟩ := collect_without fault after
    -- The declaration has no file, so that its place among the files is empty.
    have fileless : fileBehind? config before declaration = none := by
      rcases file_or_fault before (sound declaration (by simp)) with
        ⟨_, -, -, -, faultless⟩ | ⟨_, fileless, -⟩
      · cases faultless.symm.trans fault
      · exact fileless
    refine ⟨shorter, generated', ?_, ?_⟩
    · rw [artifacts, artifacts', collect_append, collect_append, collect, List.nil_append, fileless,
        files]
      rfl
    · rw [failures, failures', collect_append, collect_append, collect, List.nil_append, fault,
        faults, ← List.append_assoc]
      exact .between _ [failure] _

/-- Of four declarations for one path, the first fails and the second gets it. -/
theorem generate_splits_points :
    let config : Config := { rootPath := "", operations := [], header := false }
    let declarations : List (Declaration Nat) := [⟨0, "", "Point", [⟨"a-b", "u8"⟩]⟩,
      ⟨1, "", "Point", []⟩, ⟨2, "", "::Point", []⟩, ⟨3, "geo", "Point", []⟩,
      ⟨4, "", "Point", [⟨"x", "u8"⟩]⟩]
    ∃ generation, generate declarations config = .ok generation ∧
      generation.artifacts.map (·.target.text) = ["Point.rs", "geo/Point.rs"] ∧
      generation.failures = [.render "Point" (.member (.notName "a-b")),
        .duplicateTarget ⟨"Point.rs"⟩ "Point" "::Point",
        .duplicateTarget ⟨"Point.rs"⟩ "Point" "Point"] ∧
      Splits config declarations generation := by
  intro config declarations
  have calm : ∀ declaration ∈ declarations, isAborted (render declaration config) = false := by
    decide +kernel
  obtain ⟨generation, generated, splits⟩ :=
    generate_splits fun declaration listed => ne_aborted (calm declaration listed)
  have known : (generate declarations config).toOption.map (fun generation =>
      (generation.artifacts.map (·.target.text), generation.failures)) =
      some (["Point.rs", "geo/Point.rs"], [.render "Point" (.member (.notName "a-b")),
        .duplicateTarget ⟨"Point.rs"⟩ "Point" "::Point",
        .duplicateTarget ⟨"Point.rs"⟩ "Point" "Point"]) := by decide +kernel
  rw [generated] at known
  obtain ⟨targets, failures⟩ := Prod.mk.inj (Option.some.inj known)
  exact ⟨generation, generated, targets, failures, splits⟩

end Code

end RecordDerive
