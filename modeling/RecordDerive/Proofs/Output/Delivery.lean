import RecordDerive.Output.Memory
import RecordDerive.Proofs.Code.Generation
import RecordDerive.Proofs.Output.Disk
import RecordDerive.Proofs.Round.Session

/-!
# Delivering files that have places of their own

Files of which no two have the same path and none stands on the way to another one are
taken by a memory, and by a file system in which nothing stands below the root.  Both
then hold exactly these files.
-/

namespace RecordDerive.Output

open Code (Artifact Apart Placed)
open Text (FilePath)

/-- A file that is taken leaves the rest of a delivery to be made. -/
theorem deliver_cons {W : Type} [Writer W] {writer next reached : W} {file : Artifact}
    {files : List Artifact} {path : FilePath} {paths : List FilePath}
    (took : Writer.write file writer = (.ok path, next))
    (delivered : deliver files next = (.ok paths, reached)) :
    deliver (file :: files) writer = (.ok (path :: paths), reached) := by
  rw [deliver, took]
  dsimp only
  rw [delivered]
  rfl

/-! ## To memory -/

namespace Memory

theorem insert_perm (file : Artifact) (files : List Artifact) :
    (insert file files).Perm (file :: files) := by
  induction files with
  | nil => exact .refl _
  | cons first rest ih =>
      rw [insert]
      split
      next => exact .refl _
      next => exact (ih.cons first).trans (.swap file first rest)

theorem contents?_eq_none {memory : Memory} {path : FilePath}
    (free : ∀ known ∈ memory.files, known.target.components ≠ path.components) :
    memory.contents? path = none := by
  rw [contents?, Option.map_eq_none_iff, List.find?_eq_none]
  intro known member same
  exact free known member (beq_iff_eq.mp same)

theorem contents?_eq_some {memory : Memory}
    (apart : memory.files.Pairwise fun first second =>
      first.target.components ≠ second.target.components)
    {path : FilePath} {contents : String} :
    memory.contents? path = some contents ↔
      ∃ file ∈ memory.files, file.target.same path = true ∧ file.contents = contents := by
  rw [contents?, Option.map_eq_some_iff]
  constructor
  · rintro ⟨file, found, rfl⟩
    have same := List.find?_some found
    exact ⟨file, List.mem_of_find?_eq_some found, same, rfl⟩
  · rintro ⟨file, member, same, rfl⟩
    refine ⟨file, ?_, rfl⟩
    obtain ⟨before, after, listed⟩ := List.append_of_mem member
    rw [listed] at apart ⊢
    obtain ⟨-, -, across⟩ := List.pairwise_append.mp apart
    have absent : before.find? (·.target.same path) = none := by
      rw [List.find?_eq_none]
      intro other earlier same'
      apply across other earlier file List.mem_cons_self
      exact (beq_iff_eq.mp same').trans (beq_iff_eq.mp same).symm
    rw [List.find?_append, absent, Option.none_or, List.find?_cons, same]

/-- A memory takes all files whose paths differ. -/
theorem deliver_apart {files known : List Artifact} {memory : Memory}
    (holds : memory.files.Perm known) (apart : Apart (known ++ files)) :
    ∃ reached, deliver files memory = (.ok (files.map (·.target)), reached) ∧
      reached.files.Perm (known ++ files) := by
  induction files generalizing known memory with
  | nil =>
      rw [List.append_nil]
      exact ⟨memory, rfl, holds⟩
  | cons file files ih =>
      obtain ⟨-, -, across⟩ := List.pairwise_append.mp apart.distinct
      have free : memory.contents? file.target = none := by
        apply contents?_eq_none
        intro other member
        exact across other (holds.subset member) file List.mem_cons_self
      have took : Writer.write file memory = (.ok file.target, ⟨insert file memory.files⟩) := by
        show memory.write file = _
        rw [write, free]
      have more : (insert file memory.files).Perm (known ++ [file]) :=
        (insert_perm file memory.files).trans
          ((holds.cons file).trans (List.perm_append_singleton file known).symm)
      rw [List.append_cons] at apart ⊢
      obtain ⟨reached, delivered, all⟩ := ih more apart
      exact ⟨reached, deliver_cons took delivered, all⟩

end Memory

/-! ## To a file system -/

namespace Disk

variable {root : FilePath} {disk : Disk} {file : Artifact} {files : List Artifact}
  {directories : List String} {name : String}

theorem components_join (root : FilePath) (placed : Placed file.target directories name) :
    (root.join file.target).components = root.components ++ file.target.components := by
  have inside := (FilePath.join_inside root placed.plain).components
  rw [← placed.path, List.append_assoc, ← placed.components] at inside
  exact inside

theorem leadsTo_join (root : FilePath) (placed : Placed file.target directories name) :
    LeadsTo (root.join file.target) (root.places ++ directories) name := by
  obtain ⟨-, parent, ending⟩ := FilePath.join_inside root placed.plain
  rw [← placed.path] at parent ending
  have inner := (List.forall_mem_append.mp placed.plain).1
  have components := components_join root placed
  rw [placed.components] at components
  refine ⟨?_, FilePath.places_of_components parent inner, ending⟩
  rw [FilePath.places_of_components components placed.plain, List.append_assoc]

/-- Below a root stand exactly some files, and directories on the way to them. -/
structure Holds (root : FilePath) (disk : Disk) (files : List Artifact) : Prop where
  above : disk.Clear [] root.places
  exactly : ∀ rest contents, disk.node? (root.places ++ rest) = some (.file contents) ↔
    ∃ file ∈ files, file.target.components = rest ∧ file.contents = contents
  between : ∀ rest, rest ≠ [] → disk.node? (root.places ++ rest) = some .directory →
    ∃ file ∈ files, rest <+: file.target.components ∧ rest ≠ file.target.components

/-- The new one of some files that have places of their own has another path than the
others, and none of them stands on the way to it nor it on the way to them. -/
theorem apart_last (apart : Apart (files ++ [file])) {known : Artifact} (member : known ∈ files) :
    ¬known.target.components <+: file.target.components ∧
      ¬file.target.components <+: known.target.components := by
  obtain ⟨-, -, across⟩ := List.pairwise_append.mp apart.distinct
  have differs := across known member file (List.mem_singleton.mpr rfl)
  obtain ⟨_, _, placed⟩ := apart.placed known (List.mem_append_left _ member)
  obtain ⟨_, _, placed'⟩ := apart.placed file (by simp)
  constructor
  · intro before
    exact differs (placed.eq_of_begins placed' before)
  · intro before
    exact differs (placed'.eq_of_begins placed before).symm

/-- Nothing stands in the way of a file that has a place of its own. -/
theorem Holds.vacant (holds : Holds root disk files) (apart : Apart (files ++ [file]))
    (placed : Placed file.target directories name) :
    disk.Vacant (root.places ++ directories) name := by
  constructor
  · intro further some along contents standing
    rw [List.nil_append] at standing
    rcases List.prefix_or_prefix_of_prefix along (List.prefix_append root.places directories) with
      before | ⟨rest, rfl⟩
    · exact holds.above further some before contents standing
    · rw [List.prefix_append_right_inj] at along
      obtain ⟨known, member, same, -⟩ := (holds.exactly rest contents).mp standing
      apply (apart_last apart member).1
      rw [same, placed.components]
      exact along.trans (List.prefix_append _ _)
  · intro standing
    rw [List.append_assoc, ← placed.components] at standing
    have some : file.target.components ≠ [] := by simp [placed.components]
    obtain ⟨known, member, along, -⟩ := holds.between _ some standing
    exact (apart_last apart member).2 along

/-- A place below the root is that of a stored file, or on the way to it, or what it was. -/
theorem Stored.node?_below (placed : Placed file.target directories name) {stored : Disk}
    (stands : Stored disk (root.places ++ directories) name file.contents stored)
    (rest : List String) :
    stored.node? (root.places ++ rest) =
      if rest = file.target.components then some (.file file.contents)
      else if rest <+: directories then some .directory
      else disk.node? (root.places ++ rest) := by
  split
  next same =>
    rw [same, placed.components, ← List.append_assoc]
    exact stands.file
  next other =>
    split
    next along => exact stands.way _ (by rwa [List.prefix_append_right_inj])
    next off =>
      apply stands.kept
      · rw [List.append_assoc, ← placed.components]
        simpa using other
      · rwa [List.prefix_append_right_inj]

/-- A stored file is one more. -/
theorem Holds.store (holds : Holds root disk files) (apart : Apart (files ++ [file]))
    (placed : Placed file.target directories name) {stored : Disk}
    (stands : Stored disk (root.places ++ directories) name file.contents stored) :
    Holds root stored (files ++ [file]) := by
  have below := stands.node?_below placed
  have onWay {rest : List String} (along : rest <+: directories) :
      rest <+: file.target.components := by
    rw [placed.components]
    exact along.trans (List.prefix_append _ _)
  have alone {rest : List String} {contents : String} (along : rest <+: file.target.components) :
      ¬∃ known ∈ files, known.target.components = rest ∧ known.contents = contents := by
    rintro ⟨known, member, rfl, -⟩
    exact (apart_last apart member).1 along
  refine ⟨?_, ?_, ?_⟩
  · intro further some along contents standing
    rw [List.nil_append, stands.way further (along.trans (List.prefix_append _ _))] at standing
    cases standing
  · intro rest contents
    simp only [List.mem_append, List.mem_singleton, or_and_right, exists_or, exists_eq_left]
    rw [below]
    split
    next same =>
      subst same
      simp [alone (List.prefix_refl _)]
    next other =>
      split
      next along => simp [alone (onWay along), Ne.symm other]
      next off => simp [holds.exactly, Ne.symm other]
  · intro rest some standing
    rw [below] at standing
    split at standing
    next same => cases standing
    next other =>
      split at standing
      next along => exact ⟨file, by simp, onWay along, other⟩
      next off =>
        obtain ⟨known, member, found⟩ := holds.between rest some standing
        exact ⟨known, List.mem_append_left _ member, found⟩

/-- Where nothing stands below the root, no files are held. -/
theorem holds_nil (bare : ∀ rest, rest ≠ [] → disk.node? (root.places ++ rest) = none)
    (possible : (disk.createDirectories root).1 = .ok ()) : Holds root disk [] := by
  have above : disk.Clear [] root.places := by
    rw [createDirectories] at possible
    split at possible
    next => cases possible
    next =>
      have creation := createFrom_creation disk [] root.places
      generalize disk.createFrom [] root.places = result at creation possible
      cases creation with
      | made clear _ _ => exact clear
      | tooLong long => cases possible
      | clash clash blocked => cases possible
  refine ⟨above, ?_, ?_⟩
  · intro rest contents
    constructor
    · intro standing
      cases rest with
      | cons first others => cases (bare _ (List.cons_ne_nil first others)).symm.trans standing
      | nil =>
          -- The root itself is none of its own files.
          rw [List.append_nil] at standing
          by_cases top : root.places = []
          · rw [top, node?_nil] at standing
            cases standing
          · exact absurd standing (above root.places top (List.prefix_refl _) contents)
    · rintro ⟨file, member, -⟩
      cases member
  · intro rest some standing
    cases (bare rest some).symm.trans standing

end Disk

namespace DiskWriter

variable {files known : List Artifact} {writer : DiskWriter}

/-- A writer that has written some files, and nothing else below its root. -/
structure Kept (writer : DiskWriter) (known : List Artifact) : Prop where
  holds : Disk.Holds writer.root writer.disk known
  written : ∀ entry ∈ writer.written, ∃ file ∈ known,
    entry.target.components = writer.root.components ++ file.target.components

theorem written?_eq_none {file : Artifact} (kept : writer.Kept known)
    (apart : Apart (known ++ [file])) : writer.written? (writer.root.join file.target) = none := by
  obtain ⟨directories, name, placed⟩ := apart.placed file (by simp)
  have path := Disk.components_join writer.root placed
  rw [written?, Option.map_eq_none_iff, List.find?_eq_none]
  intro entry member same
  obtain ⟨other, before, from_⟩ := kept.written entry member
  rw [beq_iff_eq.mp same, path, List.append_cancel_left_eq] at from_
  apply (Disk.apart_last apart before).1
  simp [from_]

/-- A file that has a place of its own is written. -/
theorem write_apart {file : Artifact} (kept : writer.Kept known) (apart : Apart (known ++ [file]))
    (refuses : Disk.RefusesOnlyClashes (writer.root.join file.target)) :
    ∃ next, Writer.write file writer = (.ok (writer.root.join file.target), next) ∧
      next.root = writer.root ∧ next.Kept (known ++ [file]) := by
  obtain ⟨directories, name, placed⟩ := apart.placed file (by simp)
  have leads := Disk.leadsTo_join writer.root placed
  have admits := (Disk.refusesOnlyClashes_iff leads).mp refuses
  obtain ⟨stored, result, stands⟩ :=
    Disk.store_vacant leads admits (kept.holds.vacant apart placed) file.contents
  have took : DiskWriter.write file writer = (.ok (writer.root.join file.target),
      { writer with
        disk := stored
        written := ⟨writer.root.join file.target, file.contents⟩ :: writer.written }) := by
    rw [DiskWriter.write, written?_eq_none kept apart]
    dsimp only
    rw [result]
  refine ⟨_, took, rfl, kept.holds.store apart placed stands, ?_⟩
  intro entry member
  rcases List.mem_cons.mp member with rfl | before
  · exact ⟨file, by simp, Disk.components_join writer.root placed⟩
  · obtain ⟨other, listed, from_⟩ := kept.written entry before
    exact ⟨other, List.mem_append_left _ listed, from_⟩

/-- A writer takes all files that have places of their own. -/
theorem deliver_apart (kept : writer.Kept known) (apart : Apart (known ++ files))
    (refuses : ∀ file ∈ files, Disk.RefusesOnlyClashes (writer.root.join file.target)) :
    ∃ reached, deliver files writer =
        (.ok ((files.map (·.target)).map writer.root.join), reached) ∧
      Disk.Holds writer.root reached.disk (known ++ files) := by
  induction files generalizing known writer with
  | nil =>
      rw [List.append_nil]
      exact ⟨writer, rfl, kept.holds⟩
  | cons file files ih =>
      rw [List.append_cons] at apart ⊢
      obtain ⟨first, rest⟩ := List.forall_mem_cons.mp refuses
      obtain ⟨next, took, sameRoot, kept'⟩ := write_apart kept apart.of_append first
      rw [← sameRoot] at rest
      obtain ⟨reached, delivered, holds⟩ := ih kept' apart rest
      rw [sameRoot] at delivered holds
      exact ⟨reached, deliver_cons took delivered, holds⟩

end DiskWriter

end RecordDerive.Output
