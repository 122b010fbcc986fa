import RecordDerive.Code.Generate
import RecordDerive.Proofs.Declaration.Extraction
import RecordDerive.Proofs.Text.FilePath

/-!
# Where generated files go

Directories are named by names, in which there are no points, and files have a point in
theirs.  So no generated file stands on the way to another one, and a path that is
taken is not given out again.
-/

namespace RecordDerive.Code

open Extraction (bind_eq_ok mapError_eq_ok)
open Text (FilePath)
open Text.FilePath (Plain)

variable {H : Type}

/-! ## Names -/

theorem isNameCharacter_ne {c : Char} (isName : isNameCharacter c = true) : c ≠ '/' ∧ c ≠ '.' := by
  constructor
  · rintro rfl
    exact absurd isName (by decide)
  · rintro rfl
    exact absurd isName (by decide)

theorem isNameCharacter_of_mem {name : String} (named : isName name = true) {c : Char}
    (member : c ∈ name.toList) : isNameCharacter c = true := by
  rw [isName] at named
  cases characters : name.toList with
  | nil =>
      rw [characters] at member
      cases member
  | cons first rest =>
      rw [characters] at named member
      obtain ⟨start, others⟩ := Bool.and_eq_true_iff.mp named
      rcases List.mem_cons.mp member with rfl | later
      · rw [isNameCharacter, Bool.or_eq_true]
        exact .inl start
      · exact List.all_eq_true.mp others c later

theorem ne_empty_of_isName {name : String} (named : isName name = true) : name ≠ "" := by
  rintro rfl
  cases named

theorem unpointed_of_isName {name : String} (named : isName name = true) :
    '.' ∉ name.toList := fun member =>
  (isNameCharacter_ne (isNameCharacter_of_mem named member)).2 rfl

theorem plain_of_isName {name : String} (named : isName name = true) : Plain name where
  full := ne_empty_of_isName named
  unslashed member := (isNameCharacter_ne (isNameCharacter_of_mem named member)).1 rfl
  unpointed := by
    rintro rfl
    exact unpointed_of_isName named (by decide)

/-! ## Targets -/

/-- A path that no file is put at on the way to another. -/
structure Placed (target : FilePath) (directories : List String) (file : String) : Prop where
  path : target = .ofComponents (directories ++ [file])
  plain : ∀ part ∈ directories ++ [file], Plain part
  unpointed : ∀ directory ∈ directories, '.' ∉ directory.toList
  pointed : '.' ∈ file.toList

theorem Placed.components {target : FilePath} {directories : List String} {file : String}
    (placed : Placed target directories file) : target.components = directories ++ [file] := by
  rw [placed.path, FilePath.components_ofComponents (by simp) placed.plain]

/-- No file stands where another needs a directory. -/
theorem Placed.eq_of_begins {first second : FilePath} {directories directories' : List String}
    {file file' : String} (placed : Placed first directories file)
    (placed' : Placed second directories' file')
    (before : first.components <+: second.components) :
    first.components = second.components := by
  rw [placed.components, placed'.components] at before ⊢
  rcases List.prefix_concat_iff.mp before with same | above
  · exact same
  · have directory : file ∈ directories' :=
      above.subset (List.mem_append_right directories (List.mem_singleton.mpr rfl))
    exact absurd placed.pointed (placed'.unpointed file directory)

theorem mapM_checkedSegment {segments checked : List String}
    (succeeded : segments.mapM checkedSegment = .ok checked) :
    checked = segments ∧ ∀ segment ∈ segments, isName segment = true := by
  induction segments generalizing checked with
  | nil =>
      cases succeeded
      exact ⟨rfl, nofun⟩
  | cons first rest ih =>
      rw [List.mapM_cons] at succeeded
      obtain ⟨head, headFound, succeeded⟩ := bind_eq_ok succeeded
      obtain ⟨tail, tailFound, succeeded⟩ := bind_eq_ok succeeded
      obtain ⟨same, named⟩ := ih tailFound
      rw [checkedSegment] at headFound
      split at headFound
      next isName =>
        cases headFound
        cases succeeded
        exact ⟨congrArg (first :: ·) same, List.forall_mem_cons.mpr ⟨isName, named⟩⟩
      next => cases headFound

theorem mem_intercalate {separator : String} {parts : List String} {c : Char}
    (member : c ∈ (String.intercalate separator parts).toList) :
    c ∈ separator.toList ∨ ∃ part ∈ parts, c ∈ part.toList := by
  induction parts with
  | nil => simp at member
  | cons first rest ih =>
      cases rest with
      | nil => exact .inr ⟨first, List.mem_singleton.mpr rfl, by simpa using member⟩
      | cons second others =>
          rw [String.intercalate_cons_cons, String.toList_append, String.toList_append,
            List.mem_append, List.mem_append] at member
          rcases member with (head | between) | later
          · exact .inr ⟨first, List.mem_cons_self, head⟩
          · exact .inl between
          · exact (ih later).imp_right fun ⟨part, listed, found⟩ =>
              ⟨part, List.mem_cons_of_mem first listed, found⟩

theorem plain_stem {names : List String} (named : ∀ name ∈ names, isName name = true) :
    Plain (String.intercalate nestedSeparator names ++ "." ++ extension) where
  full := by simp
  unslashed := by
    intro slash
    simp only [String.toList_append, List.mem_append] at slash
    rcases slash with (inside | point) | last
    · rcases mem_intercalate inside with between | ⟨name, listed, found⟩
      · exact absurd between (by decide)
      · exact (plain_of_isName (named name listed)).unslashed found
    · exact absurd point (by decide)
    · exact absurd last (by decide)
  unpointed := by
    intro same
    have sizes := congrArg String.length same
    simp only [String.length_append, extension] at sizes
    have longer : 0 < "rs".length := by decide
    omega

/-- A declaration whose segments are names, with the path that they make up. -/
structure Targeted (declaration : Declaration H) (target : FilePath) : Prop where
  package : ∀ segment ∈ Text.segments declaration.package, isName segment = true
  name : ∀ segment ∈ Text.segments declaration.name, isName segment = true
  named : Text.segments declaration.name ≠ []
  path : target = .ofComponents (Text.segments declaration.package ++
    [String.intercalate nestedSeparator (Text.segments declaration.name) ++ "." ++ extension])

theorem targetOf_eq_ok {declaration : Declaration H} {target : FilePath}
    (found : targetOf declaration = .ok target) : Targeted declaration target := by
  obtain ⟨directories, packaged, found⟩ := bind_eq_ok found
  obtain ⟨names, named, found⟩ := bind_eq_ok found
  obtain ⟨rfl, arePackages⟩ := mapM_checkedSegment packaged
  obtain ⟨rfl, areNames⟩ := mapM_checkedSegment named
  dsimp only at found
  split at found
  next => cases found
  next some =>
    cases found
    exact ⟨arePackages, areNames, by simpa using some, rfl⟩

/-- Where the file for a declaration goes. -/
theorem targetOf_placed {declaration : Declaration H} {target : FilePath}
    (found : targetOf declaration = .ok target) :
    ∃ directories file, Placed target directories file := by
  have targeted := targetOf_eq_ok found
  refine ⟨_, _, targeted.path, ?_, ?_, by simp⟩
  · intro part member
    rcases List.mem_append.mp member with directory | last
    · exact plain_of_isName (targeted.package part directory)
    · rw [List.mem_singleton.mp last]
      exact plain_stem targeted.name
  · intro directory member
    exact unpointed_of_isName (targeted.package directory member)

/-! ## Generations -/

/-- The path of a rendered file is that of its declaration. -/
theorem target_of_render {declaration : Declaration H} {config : Config} {file : Artifact}
    (rendered : render declaration config = .ok file) :
    targetOf declaration = .ok file.target := by
  obtain ⟨subject, -, rendered⟩ := bind_eq_ok (mapError_eq_ok rendered)
  obtain ⟨body, -, rendered⟩ := bind_eq_ok rendered
  obtain ⟨target, found, rendered⟩ := bind_eq_ok rendered
  cases rendered
  exact mapError_eq_ok found

/-- Files that can be put beside each other. -/
structure Apart (files : List Artifact) : Prop where
  placed : ∀ file ∈ files, ∃ directories name, Placed file.target directories name
  distinct : files.Pairwise fun first second =>
    first.target.components ≠ second.target.components

theorem Apart.of_append {files more : List Artifact} (apart : Apart (files ++ more)) :
    Apart files where
  placed file member := apart.placed file (List.mem_append_left more member)
  distinct := (List.pairwise_append.mp apart.distinct).1

namespace Generation

variable {generation next : Generation} {config : Config}

theorem apart_add (apart : Apart generation.artifacts) {file : Artifact}
    (placed : ∃ directories name, Placed file.target directories name) (name : String) :
    Apart (generation.add name file).artifacts := by
  rw [add]
  cases owned : generation.owner? file.target with
  | some first => exact apart
  | none =>
      rw [owner?, Option.map_eq_none_iff, List.find?_eq_none] at owned
      have listed : (⟨generation.owned ++ [(name, file)], generation.failures⟩ :
          Generation).artifacts = generation.artifacts ++ [file] := List.map_append
      dsimp only
      rw [listed]
      refine ⟨List.forall_mem_append.mpr ⟨apart.placed, by simpa using placed⟩, ?_⟩
      refine List.pairwise_append.mpr ⟨apart.distinct, List.pairwise_singleton _ _, ?_⟩
      intro earlier member last single same
      obtain ⟨entry, known, rfl⟩ := List.mem_map.mp member
      rw [List.mem_singleton.mp single] at same
      exact owned entry known (beq_iff_eq.mpr same)

theorem apart_step (apart : Apart generation.artifacts) {declaration : Declaration H}
    (stepped : step config generation declaration = .ok next) : Apart next.artifacts := by
  unfold step at stepped
  generalize rendered : render declaration config = result at stepped
  rcases result with (fault | abort) | file
  · cases stepped
    exact apart
  · cases stepped
  · cases stepped
    exact apart_add apart (targetOf_placed (target_of_render rendered)) _

end Generation

/-- Where no rendering aborts, something is generated. -/
theorem exists_generation {declarations : List (Declaration H)} {config : Config}
    (rendered : ∀ declaration ∈ declarations, ∀ abort,
      render declaration config ≠ .error (.aborted abort)) :
    ∃ generation, generate declarations config = .ok generation := by
  suffices folded : ∀ start, ∃ generation,
      declarations.foldlM (Generation.step config) start = .ok generation from folded .empty
  intro start
  induction declarations generalizing start with
  | nil => exact ⟨start, rfl⟩
  | cons declaration declarations ih =>
      obtain ⟨first, rest⟩ := List.forall_mem_cons.mp rendered
      obtain ⟨next, stepped⟩ :
          ∃ next, Generation.step config start declaration = .ok next := by
        unfold Generation.step
        split
        next file _ => exact ⟨_, rfl⟩
        next fault _ => exact ⟨_, rfl⟩
        next abort aborted => exact absurd aborted (first abort)
      rw [List.foldlM_cons, stepped]
      exact ih rest next

/-- Generated files have places of their own. -/
theorem apart_of_generate {declarations : List (Declaration H)} {config : Config}
    {generation : Generation} (generated : generate declarations config = .ok generation) :
    Apart generation.artifacts := by
  suffices grown : ∀ start, Apart start.artifacts →
      declarations.foldlM (Generation.step config) start = .ok generation →
        Apart generation.artifacts by
    exact grown .empty ⟨nofun, .nil⟩ generated
  intro start apart folded
  clear generated
  induction declarations generalizing start with
  | nil =>
      cases folded
      exact apart
  | cons declaration declarations ih =>
      rw [List.foldlM_cons] at folded
      obtain ⟨next, stepped, folded⟩ := bind_eq_ok folded
      exact ih next (Generation.apart_step apart stepped) folded

end RecordDerive.Code
