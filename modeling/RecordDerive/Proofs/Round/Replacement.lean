import RecordDerive.Proofs.Code.SameStructure
import RecordDerive.Proofs.Round.Accumulator
import Mathlib.Control.Monad.Basic

/-!
# Replacements that are not reported

A declaration takes the place of one of the same structure without a warning.  What is
generated for the new one is what was generated for the old one, but it may go elsewhere:
a qualified name can be split into a package and a name at several places, and the path of
the file shows which of them is meant.
-/

namespace RecordDerive.Accumulator

open Code (render)
open Ledger (find?)

variable {H : Type} [DecidableEq H] [Hashable H]

/-- A replacement that changed nothing was of a declaration with the same structure. -/
theorem sameStructure_of_unchanged {accumulator after : Accumulator H}
    {declaration : Declaration H}
    (unchanged : accumulator.record declaration = .ok (.replaced false, after)) :
    ∃ old, accumulator.get declaration.handle = some old ∧
      old.sameStructure declaration = true := by
  rw [record] at unchanged
  split at unchanged
  next => cases unchanged
  next =>
    cases place : accumulator.positions[declaration.handle]? with
    | none =>
        rw [place] at unchanged
        cases unchanged
    | some position =>
        rw [place] at unchanged
        have agrees := congrArg Prod.fst (Except.ok.inj unchanged)
        simp only [Recorded.replaced.injEq, Bool.not_eq_false', Option.any_eq_true] at agrees
        obtain ⟨old, found, same⟩ := agrees
        exact ⟨old, by simp [get, place, found], same⟩

/-- What is generated for a declaration that took a place without a warning is, apart from
its path, what was generated for the one before. -/
theorem alike_of_unchanged {accumulator after : Accumulator H} {declaration : Declaration H}
    (unchanged : accumulator.record declaration = .ok (.replaced false, after))
    (config : Config) :
    ∃ old, accumulator.get declaration.handle = some old ∧ Code.Alike config old declaration := by
  obtain ⟨old, known, same⟩ := sameStructure_of_unchanged unchanged
  exact ⟨old, known, Code.alike_of_sameStructure same config⟩

/-- Declarations of one structure under one handle, recorded one after the other. -/
theorem exists_unchanged {first second : Declaration H} (handle : first.handle = second.handle)
    (same : first.sameStructure second = true) :
    ∃ before after : Accumulator H,
      Accumulator.empty.record first = .ok (.added, before) ∧
      before.record second = .ok (.replaced false, after) := by
  obtain ⟨before, added, collects⟩ := (Collects.empty (H := H)).record first
  obtain ⟨after, replaced, -⟩ := collects.record second
  have known : find? second.handle (Ledger.put first []) = some first := by
    rw [find?, Ledger.put_nil, List.find?_cons_of_pos (by simpa using handle)]
  rw [known, Ledger.recorded_some, same] at replaced
  exact ⟨before, after, added, replaced⟩

/-- A nested name, whose outer part is then found to be a package. -/
theorem alike_of_split_name :
    let first : Declaration Nat := ⟨7, "geo", "Outer::Inner", [⟨"x", "i32"⟩]⟩
    let second : Declaration Nat := ⟨7, "geo::Outer", "Inner", [⟨"x", "i32"⟩]⟩
    ∃ before after : Accumulator Nat,
      Accumulator.empty.record first = .ok (.added, before) ∧
      before.record second = .ok (.replaced false, after) ∧
      ∃ old, before.get 7 = some old ∧ Code.Alike {} old second := by
  intro first second
  obtain ⟨before, after, added, unchanged⟩ :=
    @exists_unchanged Nat _ _ first second rfl (by decide)
  exact ⟨before, after, added, unchanged, alike_of_unchanged unchanged {}⟩

/-- A replacement that is not reported moves a file. -/
theorem moved_of_split_name :
    let first : Declaration Nat := ⟨7, "geo", "Outer::Inner", [⟨"x", "i32"⟩]⟩
    let second : Declaration Nat := ⟨7, "geo::Outer", "Inner", [⟨"x", "i32"⟩]⟩
    ∃ before after : Accumulator Nat,
      Accumulator.empty.record first = .ok (.added, before) ∧
      before.record second = .ok (.replaced false, after) ∧
      (render first {}).toOption.map (·.target) = some ⟨"geo/Outer.Inner.rs"⟩ ∧
      (render second {}).toOption.map (·.target) = some ⟨"geo/Outer/Inner.rs"⟩ := by
  intro first second
  obtain ⟨before, after, added, unchanged⟩ :=
    @exists_unchanged Nat _ _ first second rfl (by decide)
  exact ⟨before, after, added, unchanged, by decide +kernel, by decide +kernel⟩

end RecordDerive.Accumulator
