import RecordDerive.Grammar.Parser

/-!
# What readings consume

A reading that takes the tokens in front of it does so whatever was read before, and a
sequence of readings takes what its parts take one after the other.  So what a reading
takes is found by going through its definition once.
-/

namespace RecordDerive.Grammar.Parse

/-- A reading takes tokens from the front up to those left and yields a value with a
property, with no tokens left over in any group, whatever was read before. -/
def Yields {α : Type} (reading : Parse α) (before : List Token) (accepted : α → Prop)
    (after : List Token) : Prop :=
  ∀ leftOver spelled, ∃ value spelled', accepted value ∧
    reading ⟨before, leftOver, spelled⟩ = .ok (value, ⟨after, leftOver, spelled'⟩)

/-- A reading takes tokens from the front up to those left for a value. -/
abbrev Consumes {α : Type} (reading : Parse α) (before : List Token) (value : α)
    (after : List Token) : Prop :=
  Yields reading before (· = value) after

variable {α β : Type} {before between after rest : List Token}

/-! ## Sequences of readings -/

theorem bind_of_ok {reading : Parse α} {value : α} {cursor reached : Cursor}
    (read : reading cursor = .ok (value, reached)) (next : α → Parse β) :
    (reading >>= next) cursor = next value reached := by
  show (reading cursor >>= fun found => next found.1 found.2) = _
  rw [read]
  rfl

theorem pure_apply (value : α) (cursor : Cursor) :
    (Pure.pure value : Parse α) cursor = .ok (value, cursor) := rfl

theorem get_bind (next : Cursor → Parse β) (cursor : Cursor) :
    (get >>= next) cursor = next cursor cursor := rfl

theorem modify_bind (change : Cursor → Cursor) (next : PUnit → Parse β) (cursor : Cursor) :
    (modify change >>= next) cursor = next ⟨⟩ (change cursor) := rfl

namespace Yields

variable {accepted : α → Prop} {accepted' : β → Prop}

theorem pure {value : α} (accepts : accepted value) :
    Yields (Pure.pure value) before accepted before :=
  fun _ spelled => ⟨value, spelled, accepts, rfl⟩

theorem bind {reading : Parse α} {next : α → Parse β}
    (first : Yields reading before accepted between)
    (second : ∀ value, accepted value → Yields (next value) between accepted' after) :
    Yields (reading >>= next) before accepted' after := by
  intro leftOver spelled
  obtain ⟨value, middle, accepts, first⟩ := first leftOver spelled
  obtain ⟨result, last, accepts', second⟩ := second value accepts leftOver middle
  exact ⟨result, last, accepts', (bind_of_ok first next).trans second⟩

/-- What was read before does not matter for a reading that looks at it. -/
theorem get_bind {next : Cursor → Parse β}
    (second : ∀ leftOver spelled,
      Yields (next ⟨before, leftOver, spelled⟩) before accepted' after) :
    Yields (get >>= next) before accepted' after :=
  fun leftOver spelled => second leftOver spelled leftOver spelled

end Yields

namespace Consumes

theorem pure (value : α) : Consumes (Pure.pure value) before value before :=
  Yields.pure rfl

theorem bind {reading : Parse α} {next : α → Parse β} {value : α} {accepted : β → Prop}
    (first : Consumes reading before value between)
    (second : Yields (next value) between accepted after) :
    Yields (reading >>= next) before accepted after :=
  Yields.bind first fun _ same => same ▸ second

theorem ahead : Consumes Parse.ahead before before before :=
  fun _ spelled => ⟨before, spelled, rfl, rfl⟩

theorem look (property : List Token → Bool) :
    Consumes (Parse.look property) before (property before) before :=
  bind ahead (pure _)

theorem atEnd : Consumes Parse.atEnd before before.isEmpty before := look _

theorem spell (tokens : List Token) : Consumes (Parse.spell tokens) before () before :=
  fun _ spelled => ⟨(), tokens.reverse ++ spelled, rfl, rfl⟩

theorem advance (spelling : List Token) : Consumes (Parse.advance after spelling) before () after :=
  fun _ spelled => ⟨(), spelling.reverse ++ spelled, rfl, rfl⟩

/-! ## Single tokens -/

theorem skipMarks {operator : String} (found : afterMarks operator.toList before = some after) :
    Consumes (Parse.skipMarks operator) before true after := by
  apply bind ahead
  rw [found]
  exact bind (advance []) (pure true)

theorem skipMarks_absent {operator : String} (absent : atMarks operator before = false) :
    Consumes (Parse.skipMarks operator) before false before := by
  rw [atMarks, Option.isSome_eq_false_iff, Option.isNone_iff_eq_none] at absent
  apply bind ahead
  rw [absent]
  exact pure false

theorem acceptMarks {operator : String} (found : afterMarks operator.toList before = some after) :
    Consumes (Parse.acceptMarks operator) before true after :=
  bind (skipMarks found) (bind (spell _) (pure true))

theorem acceptMarks_absent {operator : String} (absent : atMarks operator before = false) :
    Consumes (Parse.acceptMarks operator) before false before :=
  bind (skipMarks_absent absent) (pure false)

theorem requireMarks {operator : String} (found : afterMarks operator.toList before = some after) :
    Consumes (Parse.requireMarks operator) before () after :=
  bind (acceptMarks found) (pure ())

theorem anyWord (text : String) : Consumes Parse.anyWord (.word text :: rest) text rest :=
  bind ahead (bind (advance _) (pure text))

theorem name {text : String} (free : keywords.contains text = false) :
    Consumes Parse.name (.word text :: rest) text rest := by
  apply bind ahead
  simp only [free]
  exact bind (advance _) (pure text)

theorem literal (text : String) : Consumes Parse.literal (.literal text :: rest) text rest :=
  bind ahead (bind (advance _) (pure text))

/-! ## Groups -/

/-- What a group holds is read to its end. -/
theorem inGroup {bracket : Bracket} {inside : List Token} {reading : Parse α} {value : α}
    (inner : Consumes reading inside value []) :
    Consumes (Parse.inGroup bracket reading) (.group bracket inside :: rest) value rest := by
  intro leftOver spelled
  obtain ⟨_, middle, rfl, read⟩ := inner leftOver []
  refine ⟨_, .group bracket middle.reverse :: spelled, rfl, ?_⟩
  have begins : Parse.ahead ⟨.group bracket inside :: rest, leftOver, spelled⟩ =
      .ok (.group bracket inside :: rest, ⟨.group bracket inside :: rest, leftOver, spelled⟩) := rfl
  rw [Parse.inGroup, bind_of_ok begins]
  simp only [if_true]
  rw [get_bind, modify_bind, bind_of_ok read, modify_bind, pure_apply]
  simp

theorem apart {reading : Parse α} {value : α} (taken : Consumes reading before value after) :
    Yields (Parse.apart reading) before (·.1 = value) after := by
  intro leftOver spelled
  obtain ⟨_, middle, rfl, read⟩ := taken leftOver []
  refine ⟨(_, middle.reverse), spelled, rfl, ?_⟩
  rw [Parse.apart, get_bind, modify_bind, bind_of_ok read, get_bind, modify_bind, pure_apply]

end Consumes

/-! ## Lists -/

/-- Items with commas between them or behind each, up to tokens at which a list stops. -/
inductive Listed (stop : List Token → Bool) (item : Parse α) :
    List Token → List α → List Token → Prop
  | nil {after : List Token} (stopped : stop after = true) : Listed stop item after [] after
  | last {before after : List Token} {value : α} (going : stop before = false)
      (read : Consumes item before value after) (stopped : stop after = true) :
      Listed stop item before [value] after
  | cons {before between after : List Token} {value : α} {values : List α} {joined : Bool}
      (going : stop before = false)
      (read : Consumes item before value (.mark ',' joined :: between))
      (unstopped : stop (.mark ',' joined :: between) = false)
      (later : Listed stop item between values after) :
      Listed stop item before (value :: values) after

namespace Listed

variable {item : Parse α} {values : List α}

theorem separated {steps : Nat} (listed : Listed List.isEmpty item before values after)
    (enough : values.length < steps) :
    Consumes (Parse.separated "," item steps) before values after := by
  induction listed generalizing steps with
  | nil stopped =>
      obtain ⟨steps, rfl⟩ := Nat.exists_eq_succ_of_ne_zero (Nat.ne_zero_of_lt enough)
      apply Consumes.bind Consumes.atEnd
      rw [stopped]
      exact Consumes.pure []
  | last going read stopped =>
      obtain ⟨steps, rfl⟩ := Nat.exists_eq_succ_of_ne_zero (Nat.ne_zero_of_lt enough)
      apply Consumes.bind Consumes.atEnd
      rw [going]
      apply Consumes.bind read
      apply Consumes.bind Consumes.atEnd
      rw [stopped]
      exact Consumes.pure _
  | cons going read unstopped later ih =>
      obtain ⟨steps, rfl⟩ := Nat.exists_eq_succ_of_ne_zero (Nat.ne_zero_of_lt enough)
      apply Consumes.bind Consumes.atEnd
      rw [going]
      apply Consumes.bind read
      apply Consumes.bind Consumes.atEnd
      rw [unstopped]
      apply Consumes.bind (Consumes.requireMarks rfl)
      exact Consumes.bind (ih (Nat.lt_of_succ_lt_succ enough)) (Consumes.pure _)

theorem entries {steps : Nat} (listed : Listed (atMarks ">") item before values after)
    (enough : values.length < steps) :
    Yields (Parse.entries item steps) before (·.map (·.item) = values) after := by
  induction listed generalizing steps with
  | nil stopped =>
      obtain ⟨steps, rfl⟩ := Nat.exists_eq_succ_of_ne_zero (Nat.ne_zero_of_lt enough)
      apply Consumes.bind (Consumes.look _)
      rw [stopped]
      exact Yields.pure rfl
  | last going read stopped =>
      obtain ⟨steps, rfl⟩ := Nat.exists_eq_succ_of_ne_zero (Nat.ne_zero_of_lt enough)
      apply Consumes.bind (Consumes.look _)
      rw [going]
      apply Yields.bind (Consumes.apart read)
      rintro ⟨_, spelling⟩ rfl
      apply Consumes.bind (Consumes.look _)
      rw [stopped]
      exact Yields.pure rfl
  | cons going read unstopped later ih =>
      obtain ⟨steps, rfl⟩ := Nat.exists_eq_succ_of_ne_zero (Nat.ne_zero_of_lt enough)
      apply Consumes.bind (Consumes.look _)
      rw [going]
      apply Yields.bind (Consumes.apart read)
      rintro ⟨_, spelling⟩ rfl
      apply Consumes.bind (Consumes.look _)
      rw [unstopped]
      apply Consumes.bind (Consumes.skipMarks rfl)
      apply Yields.bind (ih (Nat.lt_of_succ_lt_succ enough))
      rintro found rfl
      exact Yields.pure rfl

/-- Items of one class alone keep their order. -/
theorem sorted {steps : Nat} {isFirst : α → Bool}
    (listed : Listed (atMarks ">") item before values after) (enough : values.length < steps)
    (late : ∀ value ∈ values, isFirst value = false) :
    Consumes (Parse.sorted isFirst item steps) before values after := by
  apply Yields.bind (listed.entries enough)
  rintro found rfl
  have split : found.partition (fun entry => isFirst entry.item) = ([], found) := by
    rw [List.partition_eq_filter_filter]
    have each := List.forall_mem_map.mp late
    simpa [List.filter_eq_nil_iff, List.filter_eq_self] using each
  rw [split]
  exact Consumes.bind (Consumes.spell _) (Consumes.pure _)

end Listed

end RecordDerive.Grammar.Parse
