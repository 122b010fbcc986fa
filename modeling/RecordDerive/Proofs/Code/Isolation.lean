import RecordDerive.Proofs.Code.Generation

/-!
# Faults leave the others alone

Declarations meet each other only in the paths that are taken.  One that cannot be rendered
takes none, so that it adds its fault to those of the others and changes nothing else, wherever
it stands.
-/

namespace RecordDerive

/-- A list with some elements put in at one place. -/
def Inserted {α : Type} (extra shorter longer : List α) : Prop :=
  ∃ before after, shorter = before ++ after ∧ longer = before ++ extra ++ after

namespace Inserted

variable {α β : Type} {extra shorter longer : List α}

theorem nil (list : List α) : Inserted [] list list := ⟨list, [], by simp⟩

theorem last (list extra : List α) : Inserted extra list (list ++ extra) :=
  ⟨list, [], by simp, by simp⟩

theorem between (before extra after : List α) :
    Inserted extra (before ++ after) (before ++ extra ++ after) := ⟨before, after, rfl, rfl⟩

theorem append_left (inserted : Inserted extra shorter longer) (front : List α) :
    Inserted extra (front ++ shorter) (front ++ longer) := by
  obtain ⟨before, after, rfl, rfl⟩ := inserted
  exact ⟨front ++ before, after, by simp, by simp⟩

theorem append_right (inserted : Inserted extra shorter longer) (back : List α) :
    Inserted extra (shorter ++ back) (longer ++ back) := by
  obtain ⟨before, after, rfl, rfl⟩ := inserted
  exact ⟨before, after ++ back, by simp, by simp⟩

theorem map (inserted : Inserted extra shorter longer) (image : α → β) :
    Inserted (extra.map image) (shorter.map image) (longer.map image) := by
  obtain ⟨before, after, rfl, rfl⟩ := inserted
  exact ⟨before.map image, after.map image, by simp, by simp⟩

theorem length (inserted : Inserted extra shorter longer) :
    longer.length = extra.length + shorter.length := by
  obtain ⟨before, after, rfl, rfl⟩ := inserted
  simp only [List.length_append]
  omega

end Inserted

namespace Code

open Extraction (bind_eq_ok)

variable {H : Type}

namespace Generation

/-- A generation behind some other faults. -/
def behind (faults : List GenerationFault) (generation : Generation) : Generation :=
  { generation with failures := faults ++ generation.failures }

theorem step_behind (config : Config) (faults : List GenerationFault) (generation : Generation)
    (declaration : Declaration H) :
    step config (generation.behind faults) declaration =
      (step config generation declaration).map (·.behind faults) := by
  unfold step
  rcases render declaration config with (fault | abort) | file
  · simp [Except.map, behind]
  · rfl
  · have owner : (generation.behind faults).owner? file.target = generation.owner? file.target :=
      rfl
    dsimp only
    rw [add, add, owner]
    cases generation.owner? file.target with
    | none => rfl
    | some first => simp [Except.map, behind]

/-- What is generated for declarations does not depend on the faults before them. -/
theorem foldlM_behind (config : Config) (faults : List GenerationFault)
    (declarations : List (Declaration H)) (generation : Generation) :
    declarations.foldlM (step config) (generation.behind faults) =
      (declarations.foldlM (step config) generation).map (·.behind faults) := by
  induction declarations generalizing generation with
  | nil => rfl
  | cons declaration declarations ih =>
      rw [List.foldlM_cons, List.foldlM_cons, step_behind]
      cases step config generation declaration with
      | error abort => rfl
      | ok next => exact ih next

end Generation

/-- With a declaration that cannot be rendered, the same files are generated for the same
names, and the faults are the same but for its own. -/
theorem generate_inserted {config : Config} {extra : Declaration H} {failure : GenerationFault}
    (stopped : render extra config = .error (.failed failure))
    {shorter longer : List (Declaration H)} (inserted : Inserted [extra] shorter longer)
    {generation : Generation} (generated : generate shorter config = .ok generation) :
    ∃ generation', generate longer config = .ok generation' ∧
      generation'.owned = generation.owned ∧
      Inserted [failure] generation.failures generation'.failures := by
  obtain ⟨before, after, rfl, rfl⟩ := inserted
  rw [generate, List.foldlM_append] at generated
  obtain ⟨middle, reached, rest⟩ := bind_eq_ok generated
  have stepped : Generation.step config middle extra =
      .ok ((⟨middle.owned, []⟩ : Generation).behind (middle.failures ++ [failure])) := by
    unfold Generation.step
    rw [stopped]
    simp [Generation.behind]
  -- With and without the declaration, the rest starts behind other faults but with the same
  -- owners, and those alone decide what becomes of it.
  have split : middle = (⟨middle.owned, []⟩ : Generation).behind middle.failures := by
    simp [Generation.behind]
  rw [split, Generation.foldlM_behind] at rest
  cases later : after.foldlM (Generation.step config) ⟨middle.owned, []⟩ with
  | error abort =>
      rw [later] at rest
      cases rest
  | ok tail =>
      rw [later] at rest
      cases rest
      refine ⟨tail.behind (middle.failures ++ [failure]), ?_, rfl,
        middle.failures, tail.failures, rfl, rfl⟩
      rw [generate, List.append_assoc, List.foldlM_append, reached]
      show (extra :: after).foldlM (Generation.step config) middle = _
      rw [List.foldlM_cons, stepped]
      refine (Generation.foldlM_behind config _ after _).trans ?_
      rw [later]
      rfl

end Code

end RecordDerive
