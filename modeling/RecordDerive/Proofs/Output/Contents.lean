import RecordDerive.Proofs.Output.Disk

/-!
# The files of a file system

Creating directories fills empty places and changes no file, also where it fails on the
way.  So storing a file changes the contents at one place, or at none where it fails.
This holds for paths of any form.
-/

namespace RecordDerive.Output

open Text (FilePath)

namespace Disk

variable {disk next : Disk}

/-- The contents of the file at a place. -/
def file? (disk : Disk) (place : List String) : Option String :=
  match disk.node? place with
  | some (.file contents) => some contents
  | some .directory => none
  | none => none

theorem file?_put {place : List String} (inside : place ≠ []) (other : List String)
    (contents : String) : (disk.put place (.file contents)).file? other =
      if other = place then some contents else disk.file? other := by
  rw [file?, node?_put inside]
  by_cases same : other = place
  · rw [if_pos same, if_pos same]
  · rw [if_neg same, if_neg same, file?]

/-- A file system has become another by directories in empty places. -/
def AddsDirectories (disk next : Disk) : Prop :=
  ∀ place, next.node? place = disk.node? place ∨
    disk.node? place = none ∧ next.node? place = some .directory

theorem AddsDirectories.refl (disk : Disk) : disk.AddsDirectories disk := fun _ => .inl rfl

theorem AddsDirectories.trans {last : Disk} (first : disk.AddsDirectories next)
    (second : next.AddsDirectories last) : disk.AddsDirectories last := by
  intro place
  rcases first place with same | ⟨empty, made⟩
  · rw [← same]
    exact second place
  · rcases second place with same | ⟨empty', made'⟩
    · exact .inr ⟨empty, same.trans made⟩
    · exact .inr ⟨empty, made'⟩

/-- Directories in empty places change no files. -/
theorem AddsDirectories.file?_eq (adds : disk.AddsDirectories next) : next.file? = disk.file? := by
  funext place
  rw [file?, file?]
  rcases adds place with same | ⟨empty, made⟩
  · rw [same]
  · rw [empty, made]

theorem put_adds {place : List String} (empty : disk.node? place = none) :
    disk.AddsDirectories (disk.put place .directory) := by
  intro other
  have inside : place ≠ [] := by
    rintro rfl
    cases empty
  rw [node?_put inside]
  split
  next same => exact .inr ⟨same ▸ empty, rfl⟩
  next => exact .inl rfl

theorem createFrom_adds (disk : Disk) (passed names : List String) :
    disk.AddsDirectories (disk.createFrom passed names).2 := by
  induction names generalizing disk passed with
  | nil => exact .refl disk
  | cons name rest ih =>
      rw [createFrom]
      split
      next => exact .refl disk
      next =>
        cases standing : disk.node? (passed ++ [name]) with
        | none => exact (put_adds standing).trans (ih _ _)
        | some node =>
            cases node with
            | directory => exact ih disk _
            | file contents => exact .refl disk

theorem createDirectories_adds (disk : Disk) (path : FilePath) :
    disk.AddsDirectories (disk.createDirectories path).2 := by
  rw [createDirectories]
  split
  next => exact .refl disk
  next => exact createFrom_adds disk [] path.places

/-- A file that is written stands in its place. -/
theorem writeFile_eq_ok {path : FilePath} {contents : String}
    (wrote : disk.writeFile path contents = .ok next) :
    path.places ≠ [] ∧ next = disk.put path.places (.file contents) := by
  unfold writeFile at wrote
  split at wrote
  next => cases wrote
  next =>
    dsimp only at wrote
    split at wrote
    next => cases wrote
    next =>
      split at wrote
      next => cases wrote
      next => cases wrote
      next named undirected =>
        split at wrote
        next => cases wrote
        next =>
          cases wrote
          refine ⟨?_, rfl⟩
          intro top
          exact undirected (top ▸ node?_nil disk)
      next => cases wrote
      next => cases wrote

theorem store_eq_error {path : FilePath} {contents : String} {fault : SystemFault}
    (failed : disk.store path contents = (.error fault, next)) : disk.AddsDirectories next := by
  have adds := createDirectories_adds disk path.parent
  rw [store] at failed
  rcases made : disk.createDirectories path.parent with ⟨result, created⟩
  rw [made] at adds failed
  cases result with
  | error fault' =>
      cases failed
      exact adds
  | ok done =>
      dsimp only at failed
      cases wrote : created.writeFile path contents with
      | error fault' =>
          rw [wrote] at failed
          cases failed
          exact adds
      | ok written =>
          rw [wrote] at failed
          cases failed

/-- Storing a file changes no other one. -/
theorem store_eq_ok {path : FilePath} {contents : String}
    (stored : disk.store path contents = (.ok (), next)) (place : List String) :
    next.file? place = if place = path.places then some contents else disk.file? place := by
  have adds := createDirectories_adds disk path.parent
  rw [store] at stored
  rcases made : disk.createDirectories path.parent with ⟨result, created⟩
  rw [made] at adds stored
  cases result with
  | error fault => cases stored
  | ok done =>
      dsimp only at stored
      cases wrote : created.writeFile path contents with
      | error fault =>
          rw [wrote] at stored
          cases stored
      | ok written =>
          rw [wrote] at stored
          cases stored
          obtain ⟨inside, rfl⟩ := writeFile_eq_ok wrote
          rw [file?_put inside, adds.file?_eq]

end Disk

end RecordDerive.Output
