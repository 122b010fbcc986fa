import RecordDerive.Proofs.Code.Isolation
import RecordDerive.Proofs.Round.DryRun
import RecordDerive.Proofs.Round.Regrouping

/-!
# A handle more in a round

Handles meet each other in a round only where they are the same.  So a round with one more
handle comes to what it does without: one that is rejected adds a diagnostic, and one that is
accepted stands beside the other declarations from then on, also through later rounds.
-/

namespace RecordDerive

open Ledger (find? handles put drop)

variable {H : Type} [DecidableEq H]

/-! ## Declarations under other handles -/

namespace Ledger

variable {declaration : Declaration H} {extra shorter longer : List (Declaration H)}

theorem put_append_of_not_mem (foreign : declaration.handle ∉ handles extra)
    (declarations : List (Declaration H)) :
    put declaration (extra ++ declarations) = extra ++ put declaration declarations := by
  induction extra with
  | nil => rfl
  | cons first rest ih =>
      rw [handles_cons, List.mem_cons, not_or] at foreign
      rw [List.cons_append, put_cons, if_neg (Ne.symm foreign.1), ih foreign.2, List.cons_append]

theorem put_inserted (foreign : declaration.handle ∉ handles extra)
    (inserted : Inserted extra shorter longer) :
    Inserted extra (put declaration shorter) (put declaration longer) := by
  obtain ⟨before, after, rfl, rfl⟩ := inserted
  induction before with
  | nil =>
      rw [List.nil_append, List.nil_append, put_append_of_not_mem foreign]
      exact .between [] extra _
  | cons first before ih =>
      rw [List.cons_append, List.cons_append, List.cons_append, put_cons, put_cons]
      split
      next => exact .between (declaration :: before) extra after
      next => exact ih.append_left [first]

theorem drop_inserted {handle : H} (foreign : handle ∉ handles extra)
    (inserted : Inserted extra shorter longer) :
    Inserted extra (drop handle shorter) (drop handle longer) := by
  obtain ⟨before, after, rfl, rfl⟩ := inserted
  have kept : drop handle extra = extra := drop_eq_self foreign
  rw [drop] at kept
  rw [drop, drop, List.filter_append, List.filter_append, List.filter_append, kept]
  exact .between _ extra _

omit [DecidableEq H] in
theorem foreign_of_absent {presented : List H} (absent : declaration.handle ∉ presented) :
    ∀ handle ∈ presented, handle ∉ handles [declaration] := by
  intro handle member same
  rw [handles_cons, handles_nil, List.mem_singleton] at same
  exact absent (same ▸ member)

theorem find?_inserted {handle : H} (foreign : handle ∉ handles extra)
    (inserted : Inserted extra shorter longer) : find? handle longer = find? handle shorter := by
  obtain ⟨before, after, rfl, rfl⟩ := inserted
  have absent : find? handle extra = none := find?_eq_none foreign
  rw [find?] at absent
  simp [find?, List.find?_append, absent]

end Ledger

/-! ## Tallies -/

@[simp] theorem Outcome.zero_add (outcome : Outcome) : Outcome.add {} outcome = outcome := by
  simp [add]

/-- The declarations that some rounds leave recorded. -/
def Tally.through (source : Source H) (rounds : List (List H))
    (declarations : List (Declaration H)) : List (Declaration H) :=
  gathered (rounds.map (source, ·)) declarations

@[simp] theorem Tally.through_nil (source : Source H) (declarations : List (Declaration H)) :
    through source [] declarations = declarations := rfl

@[simp] theorem Tally.through_cons (source : Source H) (handles : List H)
    (rounds : List (List H)) (declarations : List (Declaration H)) :
    through source (handles :: rounds) declarations =
      through source rounds (ofRound source declarations handles).declarations := rfl

@[simp] theorem Tally.through_append (source : Source H) (earlier later : List (List H))
    (declarations : List (Declaration H)) :
    through source (earlier ++ later) declarations =
      through source later (through source earlier declarations) := by
  simp [through, gathered]

namespace Tally

variable {source : Source H} {handle : H}

/-- No handle is recorded that was not presented. -/
theorem not_mem_ofRound {declarations : List (Declaration H)}
    (unknown : handle ∉ handles declarations) {presented : List H}
    (absent : handle ∉ presented) :
    handle ∉ handles (ofRound source declarations presented).declarations := by
  suffices kept : ∀ tally : Tally H, handle ∉ handles tally.declarations →
      handle ∉ handles (presented.foldl (present source) tally).declarations from
    kept _ unknown
  induction presented with
  | nil => exact fun _ unknown => unknown
  | cons other presented ih =>
      intro tally unknown
      rw [List.mem_cons, not_or] at absent
      refine ih absent.2 _ ?_
      rw [present]
      cases accepted : source.accept other with
      | ok declaration =>
          have named := (Source.accept_eq_ok accepted).2.1
          dsimp only
          by_cases known : declaration.handle ∈ handles tally.declarations
          · rw [Ledger.put_of_mem known]
            exact unknown
          · rw [Ledger.put_of_not_mem known, Ledger.handles_append, List.mem_append, not_or]
            exact ⟨unknown, by simpa [named] using absent.1⟩
      | error fault =>
          exact fun member => unknown (((Ledger.drop_sublist _ _).map _).subset member)

theorem not_mem_through {declarations : List (Declaration H)}
    (unknown : handle ∉ handles declarations) {rounds : List (List H)}
    (absent : ∀ round ∈ rounds, handle ∉ round) :
    handle ∉ handles (through source rounds declarations) := by
  induction rounds generalizing declarations with
  | nil => exact unknown
  | cons round rounds ih =>
      obtain ⟨first, others⟩ := List.forall_mem_cons.mp absent
      exact ih (not_mem_ofRound unknown first) others

/-- A tally as it is without some declarations, which were recorded so often in it. -/
structure Beside (extra : List (Declaration H)) (count : Nat) (tally tally' : Tally H) :
    Prop where
  declarations : Inserted extra tally.declarations tally'.declarations
  diagnostics : tally'.diagnostics = tally.diagnostics
  outcome : tally'.outcome = Outcome.add { recorded := count } tally.outcome

variable {extra : List (Declaration H)}

theorem Beside.present {tally tally' : Tally H} (beside : Beside extra 0 tally tally')
    (foreign : handle ∉ handles extra) :
    Beside extra 0 (tally.present source handle) (tally'.present source handle) := by
  have outcome : tally'.outcome = tally.outcome := by simpa using beside.outcome
  unfold Tally.present
  cases accepted : source.accept handle with
  | ok declaration =>
      rw [← (Source.accept_eq_ok accepted).2.1] at foreign
      refine ⟨Ledger.put_inserted foreign beside.declarations, ?_, ?_⟩
      · dsimp only
        rw [beside.diagnostics, Ledger.find?_inserted foreign beside.declarations]
      · simp [outcome]
  | error fault =>
      refine ⟨Ledger.drop_inserted foreign beside.declarations, ?_, ?_⟩
      · dsimp only
        rw [beside.diagnostics]
      · simp [outcome]

/-- A round over other handles does the same beside some declarations. -/
theorem ofRound_beside (source : Source H) {declarations declarations' : List (Declaration H)}
    (inserted : Inserted extra declarations declarations') {presented : List H}
    (foreign : ∀ handle ∈ presented, handle ∉ handles extra) :
    Beside extra 0 (ofRound source declarations presented)
      (ofRound source declarations' presented) := by
  suffices kept : ∀ tally tally' : Tally H, Beside extra 0 tally tally' →
      Beside extra 0 (presented.foldl (Tally.present source) tally)
        (presented.foldl (Tally.present source) tally') from
    kept _ _ ⟨inserted, rfl, (Outcome.zero_add _).symm⟩
  induction presented with
  | nil => exact fun _ _ beside => beside
  | cons handle presented ih =>
      intro tally tally' beside
      obtain ⟨first, others⟩ := List.forall_mem_cons.mp foreign
      exact ih others _ _ (beside.present first)

variable {declarations : List (Declaration H)} {before after : List H}

/-- The round with a handle more, in three parts. -/
theorem ofRound_insert {second : Tally H}
    (alone : ofRound source (ofRound source declarations before).declarations [handle] = second) :
    ofRound source declarations (before ++ handle :: after) =
      (ofRound source declarations before).add
        (second.add (ofRound source second.declarations after)) := by
  rw [ofRound_append, ← List.singleton_append, ofRound_append, alone]

/-- A rejected handle that was not recorded adds a diagnostic to its round. -/
theorem ofRound_rejected {fault : DeclarationFault} (rejected : source.accept handle = .error fault)
    (unknown : handle ∉ handles (ofRound source declarations before).declarations) :
    let tally := ofRound source declarations (before ++ after)
    let tally' := ofRound source declarations (before ++ handle :: after)
    tally'.declarations = tally.declarations ∧
      Inserted [.fatal fault.declaration fault.message] tally.diagnostics.all
        tally'.diagnostics.all ∧
      tally'.outcome = Outcome.add { failed := 1 } tally.outcome := by
  intro tally tally'
  have alone : ofRound source (ofRound source declarations before).declarations [handle] =
      ⟨(ofRound source declarations before).declarations,
        ⟨[.fatal fault.declaration fault.message]⟩, { failed := 1 }⟩ := by
    show Tally.present source _ handle = _
    rw [Tally.present, rejected, Ledger.drop_eq_self unknown]
    rfl
  have whole := ofRound_append source declarations before after
  have whole' := @ofRound_insert H _ source handle declarations before after _ alone
  simp only [tally, tally', whole, whole']
  refine ⟨rfl, ?_, ?_⟩
  · simp only [add, Diagnostics.reportAll]
    exact ⟨_, _, rfl, by simp⟩
  · simp [add, Outcome.add, Nat.add_left_comm]

/-- A recorded handle stands beside the others from its round on. -/
theorem ofRound_unrendered {declaration : Declaration H}
    (accepted : source.accept handle = .ok declaration)
    (unknown : handle ∉ handles (ofRound source declarations before).declarations)
    (absent : handle ∉ after) :
    Beside [declaration] 1 (ofRound source declarations (before ++ after))
      (ofRound source declarations (before ++ handle :: after)) := by
  have named := (Source.accept_eq_ok accepted).2.1
  have alone : ofRound source (ofRound source declarations before).declarations [handle] =
      ⟨(ofRound source declarations before).declarations ++ [declaration], .empty,
        { recorded := 1 }⟩ := by
    show Tally.present source _ handle = _
    rw [← named] at unknown
    rw [Tally.present, accepted]
    dsimp only
    rw [Ledger.put_of_not_mem unknown, Ledger.find?_eq_none unknown]
    rfl
  rw [← named] at absent
  have beside := ofRound_beside source
    (.last (ofRound source declarations before).declarations [declaration])
    (Ledger.foreign_of_absent absent)
  rw [ofRound_append, ofRound_insert alone]
  refine ⟨beside.declarations, ?_, ?_⟩
  · simp [add, beside.diagnostics, Diagnostics.reportAll, Diagnostics.empty]
  · simp [add, beside.outcome, Outcome.add, Nat.add_left_comm]

end Tally

end RecordDerive
