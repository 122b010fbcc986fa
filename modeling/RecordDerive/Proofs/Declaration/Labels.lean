import RecordDerive.Proofs.Declaration.Extraction

/-!
# Where labels are read

A source has a label for each handle, whatever its metadata say.  Extraction reads the label
into one kind of fault only, about metadata that cannot be read; every other fault names the
declaration as its metadata do, and declarations themselves know no labels.  So other labels
change nothing for a handle that can be read.
-/

namespace RecordDerive

open Metadata

/-- A source with other labels. -/
def Source.relabel {H : Type} (source : Source H) (label : H → String) : Source H :=
  { source with label }

/-- A fault with another label, where it is reported under one. -/
def ExtractionFault.relabel (label : String) : ExtractionFault → ExtractionFault
  | .notProduct name kind => .notProduct name kind
  | .genericField name field parameter => .genericField name field parameter
  | .unavailable _ cause => .unavailable label cause

namespace Extraction

theorem mapError_bind {ε δ α β : Type} (image : ε → δ) (first : Except ε α)
    (next : α → Except ε β) :
    (first >>= next).mapError image =
      first.mapError image >>= fun value => (next value).mapError image := by
  cases first with
  | error fault => rfl
  | ok value => rfl

theorem mapM_mapError {ε δ α β : Type} (image : ε → δ) (next : α → Except ε β) (items : List α) :
    items.mapM (fun item => (next item).mapError image) = (items.mapM next).mapError image := by
  induction items with
  | nil => rfl
  | cons item items ih =>
    rw [List.mapM_cons, List.mapM_cons, ih, mapError_bind]
    refine bind_congr fun value => ?_
    rw [mapError_bind]
    rfl

variable {H : Type} (label other : String)

theorem resolved_relabel {α : Type} (result : Except Fault α) :
    resolved other result = (resolved label result).mapError (.relabel other) := by
  cases result with
  | error fault => rfl
  | ok value => rfl

theorem field_relabel (name : String) (names : NameTable) (parameter : Parameter) :
    field other name names parameter =
      (field label name names parameter).mapError (.relabel other) := by
  rw [field, field, mapError_bind, ← resolved_relabel]
  refine bind_congr fun fieldName => ?_
  cases parameter.type.findParameter with
  | some generic =>
    dsimp only
    rw [mapError_bind, ← resolved_relabel]
    rfl
  | none =>
    dsimp only
    rw [mapError_bind, ← resolved_relabel]
    rfl

theorem ofDescription_relabel (handle : H) (description : Description) :
    ofDescription handle other description =
      (ofDescription handle label description).mapError (.relabel other) := by
  rw [ofDescription, ofDescription, mapError_bind, ← resolved_relabel]
  refine bind_congr fun name => ?_
  split
  next constructor isProduct primary =>
    rw [mapError_bind, ← mapM_mapError]
    simp only [← field_relabel]
    refine bind_congr fun fields => ?_
    rw [mapError_bind, ← resolved_relabel]
    refine bind_congr fun package => ?_
    rw [mapError_bind, ← resolved_relabel]
    rfl
  next other => rfl

variable {label : String} {handle : H} {description : Description} {fault : ExtractionFault}

theorem resolved_eq_error {α : Type} {result : Except Fault α}
    (failed : resolved label result = .error fault) : ∃ cause, fault = .unavailable label cause := by
  obtain ⟨cause, -, same⟩ := mapError_eq_error failed
  exact ⟨cause, same.symm⟩

theorem field_eq_error {name : String} {names : NameTable} {parameter : Parameter}
    (failed : field label name names parameter = .error fault) :
    (∃ cause, fault = .unavailable label cause) ∨ fault.declaration = name := by
  rcases bind_eq_error failed with unresolved | ⟨fieldName, -, failed⟩
  · exact .inl (resolved_eq_error unresolved)
  · split at failed
    next generic found =>
      rcases bind_eq_error failed with unresolved | ⟨genericName, -, failed⟩
      · exact .inl (resolved_eq_error unresolved)
      · cases failed
        exact .inr rfl
    next found =>
      rcases bind_eq_error failed with unresolved | ⟨type, -, last⟩
      · exact .inl (resolved_eq_error unresolved)
      · cases last

/-- A fault about metadata that can be read names the declaration as its metadata do. -/
theorem ofDescription_eq_error
    (failed : ofDescription handle label description = .error fault) :
    (∃ cause, fault = .unavailable label cause) ∨
      description.names.qualifiedName description.name = .ok fault.declaration := by
  rcases bind_eq_error failed with unresolved | ⟨name, named, failed⟩
  · exact .inl (resolved_eq_error unresolved)
  have named := mapError_eq_ok named
  split at failed
  next constructor isProduct primary =>
    rcases bind_eq_error failed with unread | ⟨fields, -, failed⟩
    · obtain ⟨parameter, listed, unread⟩ := mapM_eq_error unread
      rcases field_eq_error unread with unresolved | same
      · exact .inl unresolved
      · exact .inr (named.trans (congrArg Except.ok same.symm))
    · rcases bind_eq_error failed with unresolved | ⟨package, -, failed⟩
      · exact .inl (resolved_eq_error unresolved)
      · rcases bind_eq_error failed with unresolved | ⟨path, -, last⟩
        · exact .inl (resolved_eq_error unresolved)
        · cases last
  next other =>
    cases failed
    exact .inr named

end Extraction

namespace Source

open Extraction

variable {H : Type} {source : Source H} {handle : H}

/-- Under other labels, extraction comes to the same declaration or to the same fault, which has
another name only if it is about metadata that cannot be read. -/
theorem extract_relabel (source : Source H) (label : H → String) (handle : H) :
    (source.relabel label).extract handle =
      (source.extract handle).mapError (.relabel (label handle)) := by
  rw [extract, extract, mapError_bind, ← resolved_relabel]
  refine bind_congr fun description => ?_
  exact ofDescription_relabel _ _ handle description

/-- A handle without a declaration is reported under its label if nothing can be read, and else
under the name that its metadata have for it. -/
theorem extract_eq_error {fault : ExtractionFault}
    (failed : source.extract handle = .error fault) :
    (∃ cause, fault = .unavailable (source.label handle) cause) ∨
      ∃ description, source.describe handle = .ok description ∧
        description.names.qualifiedName description.name = .ok fault.declaration := by
  rcases bind_eq_error failed with unread | ⟨description, described, failed⟩
  · exact .inl (resolved_eq_error unread)
  · refine (ofDescription_eq_error failed).imp_right fun named => ?_
    exact ⟨description, mapError_eq_ok described, named⟩

/-- Labels that are changed only where nothing can be read are not seen. -/
theorem accept_relabel {label : H → String}
    (kept : ∀ name cause, source.extract handle = .error (.unavailable name cause) →
      label handle = name) :
    (source.relabel label).accept handle = source.accept handle := by
  rw [accept, accept, extract_relabel]
  cases extracted : source.extract handle with
  | ok declaration => rfl
  | error fault =>
    cases fault with
    | notProduct name kind => rfl
    | genericField name field parameter => rfl
    | unavailable name cause =>
      rw [← kept name cause extracted]
      rfl

end Source

end RecordDerive
