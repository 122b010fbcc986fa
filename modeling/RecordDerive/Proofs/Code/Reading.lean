import RecordDerive.Code.Derive
import Mathlib.Data.List.Forall2

/-!
# Reading generated code

What generated methods do, as functions on records: a record has a value for every member, a
tuple is a list of values, and what is fed to a hasher or written to a formatter is noted in
order.  How values of fields are compared and shown is up to their types.  What would not
compile has no reading: a member that is missing, a record with a member too many or too few,
a template with other gaps than there are values.
-/

namespace RecordDerive.Code

/-- How values of fields are compared and shown. -/
structure FieldSemantics (V : Type) where
  agree : V → V → Bool
  shown : V → String

/-- A value for every member. -/
abbrev Record (members : List Member) (V : Type) := (member : Member) → member ∈ members → V

/-- What is handled by generated code. -/
inductive Value (members : List Member) (V : Type)
  | record (record : Record members V)
  | tuple (elements : List V)
  | truth (truth : Bool)
  | number (value : Nat)
  | text (content : String)
  | texts (contents : List String)
  /-- Something that values are fed or written to. -/
  | sink
  | nothing

/-- What is done to a sink. -/
inductive Event (V : Type)
  | fed (value : V)
  | wrote (text : String)

/-- What a piece of code comes to, and what it does to its sink. -/
abbrev Meaning (members : List Member) (V : Type) := Value members V × List (Event V)

/-- The names of parameters with what they stand for. -/
abbrev Scope (members : List Member) (V : Type) := List (String × Value members V)

variable {members : List Member} {V : Type}

namespace Record

/-- The values of a record in the order of its members. -/
def values (record : Record members V) : List V :=
  members.pmap record fun _ listed => listed

/-- The record of some members with their values, each member once. -/
def collect (members : List Member) (fields : List (Member × V)) : Option (Record members V) :=
  if complete : (fields.map (·.1)).Nodup ∧ (∀ field ∈ fields, field.1 ∈ members) ∧
      ∀ member ∈ members, (fields.lookup member).isSome then
    some fun member listed => (fields.lookup member).get (complete.2.2 member listed)
  else none

end Record

/-! ## Expressions -/

/-- The value at a place that is a member of a record or an element of a tuple. -/
def Place.field? (scope : Scope members V) : Place → Option V
  | .whole _ => none
  | .member parameter name =>
    match scope.lookup parameter with
    | some (.record record) =>
      if listed : name ∈ members then some (record name listed) else none
    | some (.tuple elements) =>
      match name with
      | .position index => elements[index.toNat]?
      | .named _ => none
    | _ => none

/-- Whether a parameter is something to feed or write to. -/
def isSink (scope : Scope members V) (parameter : String) : Bool :=
  match scope.lookup parameter with
  | some .sink => true
  | _ => false

/-- The names of a path without generic arguments, if it is rooted. -/
def rootedNames : Grammar.Phrase → Option (List String)
  | .path true steps => steps.mapM fun
    | .step name _ [] => some name
    | _ => none
  | _ => none

/-- A text with shown values in its gaps.  A doubled curly bracket stands for one. -/
def fill : List Char → List String → Option (List Char)
  | '\x7b' :: ':' :: '?' :: '\x7d' :: rest, shown :: others =>
    (fill rest others).map (shown.toList ++ ·)
  | '\x7b' :: '\x7b' :: rest, shown => (fill rest shown).map ('\x7b' :: ·)
  | '\x7d' :: '\x7d' :: rest, shown => (fill rest shown).map ('\x7d' :: ·)
  | first :: rest, shown =>
    if first = '\x7b' ∨ first = '\x7d' then none else (fill rest shown).map (first :: ·)
  | [], [] => some []
  | [], _ :: _ => none

/-- The meaning of an expression. -/
def Expr.meaning (semantics : FieldSemantics V) (scope : Scope members V) :
    Expr → Option (Meaning members V)
  | .truth => some (.truth true, [])
  | .number value => some (.number value, [])
  | .text content => some (.text content, [])
  | .texts contents => some (.texts contents, [])
  | .equal left right => do
    let first ← left.field? scope
    let second ← right.field? scope
    return (.truth (semantics.agree first second), [])
  | .both left right => do
    match ← left.meaning semantics scope, ← right.meaning semantics scope with
    | (.truth first, events), (.truth second, more) =>
      -- The right side is not run where the left one does not hold.
      return (.truth (first && second), if first then events ++ more else events)
    | _, _ => none
  | .call function arguments =>
    match rootedNames function, arguments with
    | some ["core", "hash", "Hash", "hash"], [.borrowed place, .value (.whole parameter)] => do
      let value ← place.field? scope
      if isSink scope parameter then return (.nothing, [.fed value]) else none
    | _, _ => none
  | .write parameter template places => do
    let values ← places.mapM (Place.field? scope)
    let text ← fill template.text.toList (values.map semantics.shown)
    if isSink scope parameter then return (.nothing, [.wrote (String.ofList text)]) else none
  | .tuple elements => do
    let values ← elements.mapM (Place.field? scope)
    return (.tuple values, [])
  | .record fields => do
    let values ← fields.mapM fun field => (field.2.field? scope).map (field.1, ·)
    let record ← Record.collect members values
    return (.record record, [])

section Arms

variable (semantics : FieldSemantics V) (scope : Scope members V)

/-! What each kind of expression comes to, one rule for each, so that proofs about generated code
need not take the definition apart again. -/

@[simp] theorem Expr.meaning_truth : Expr.truth.meaning semantics scope = some (.truth true, []) :=
  rfl

@[simp] theorem Expr.meaning_equal (left right : Place) :
    (Expr.equal left right).meaning semantics scope =
      (left.field? scope).bind fun first => (right.field? scope).bind fun second =>
        some (.truth (semantics.agree first second), []) := rfl

/-- Only one function has a meaning: the one that feeds a value to a sink. -/
@[simp] theorem Expr.meaning_feed (place : Place) (parameter : String) :
    (Expr.call (Derive.core ["hash", "Hash", "hash"])
        [.borrowed place, .value (.whole parameter)]).meaning semantics scope =
      (place.field? scope).bind fun value =>
        if isSink scope parameter then some (.nothing, [.fed value]) else none := rfl

@[simp] theorem Expr.meaning_write (parameter : String) (template : Template)
    (places : List Place) :
    (Expr.write parameter template places).meaning semantics scope =
      (places.mapM (Place.field? scope)).bind fun values =>
        (fill template.text.toList (values.map semantics.shown)).bind fun text =>
          if isSink scope parameter then some (.nothing, [.wrote (String.ofList text)])
          else none := rfl

@[simp] theorem Expr.meaning_tuple (elements : List Place) :
    (Expr.tuple elements).meaning semantics scope =
      (elements.mapM (Place.field? scope)).bind fun values => some (.tuple values, []) := rfl

@[simp] theorem Expr.meaning_record (fields : List (Member × Place)) :
    (Expr.record fields).meaning semantics scope =
      (fields.mapM fun (field : Member × Place) =>
          (field.2.field? scope).map (field.1, ·)).bind fun values =>
        (Record.collect members values).bind fun record => some (.record record, []) := rfl

variable {semantics scope}

theorem Expr.meaning_both {left right : Expr} {first second : Bool} {events more : List (Event V)}
    (held : left.meaning semantics scope = some (.truth first, events))
    (goes : right.meaning semantics scope = some (.truth second, more)) :
    (Expr.both left right).meaning semantics scope =
      some (.truth (first && second), if first then events ++ more else events) := by
  rw [Expr.meaning, held, goes]
  rfl

end Arms

/-! ## Methods -/

/-- The meaning of the steps of a method. -/
def bodyMeaning (semantics : FieldSemantics V) (scope : Scope members V) :
    List Statement → Option (Meaning members V)
  | [] => some (.nothing, [])
  | .discard parameter :: rest =>
    if (scope.lookup parameter).isSome then bodyMeaning semantics scope rest else none
  | .run action :: rest => do
    let (_, events) ← action.meaning semantics scope
    let (value, more) ← bodyMeaning semantics scope rest
    return (value, events ++ more)
  | [.result value] => value.meaning semantics scope
  | .result _ :: _ :: _ => none

section Steps

variable (semantics : FieldSemantics V) (scope : Scope members V) (rest : List Statement)

@[simp] theorem bodyMeaning_nil : bodyMeaning semantics scope [] = some (.nothing, []) := rfl

@[simp] theorem bodyMeaning_discard (parameter : String) :
    bodyMeaning semantics scope (.discard parameter :: rest) =
      if (scope.lookup parameter).isSome then bodyMeaning semantics scope rest else none := rfl

@[simp] theorem bodyMeaning_run (action : Expr) :
    bodyMeaning semantics scope (.run action :: rest) =
      (action.meaning semantics scope).bind fun here =>
        (bodyMeaning semantics scope rest).bind fun later =>
          some (later.1, here.2 ++ later.2) := rfl

@[simp] theorem bodyMeaning_result (value : Expr) :
    bodyMeaning semantics scope [.result value] = value.meaning semantics scope := rfl

end Steps

/-- The parameters of a method with what it is called with. -/
def scopeOf : List Parameter → List (Value members V) → Option (Scope members V)
  | [], [] => some []
  | .receiver _ :: parameters, value :: values =>
    (scopeOf parameters values).map (("self", value) :: ·)
  | .typed name _ :: parameters, value :: values =>
    (scopeOf parameters values).map ((name, value) :: ·)
  | _, _ => none

namespace Implementation

/-- The meaning of a call of a method. -/
def call (implementation : Implementation) (semantics : FieldSemantics V) (name : String)
    (values : List (Value members V)) : Option (Meaning members V) := do
  let method ← implementation.items.findSome? fun
    | .method method => if method.name = name then some method else none
    | _ => none
  let scope ← scopeOf method.parameters values
  bodyMeaning semantics scope method.body

/-- What the body of a method ends in. -/
def result? (implementation : Implementation) (name : String) : Option Expr := do
  let method ← implementation.items.findSome? fun
    | .method method => if method.name = name then some method else none
    | _ => none
  match ← method.body.getLast? with
  | .result value => some value
  | _ => none

/-- The value of a constant. -/
def constant? (implementation : Implementation) (semantics : FieldSemantics V) (name : String) :
    Option (Value members V) := do
  let value ← implementation.items.findSome? fun
    | .constant found _ value => if found = name then some value else none
    | _ => none
  (·.1) <$> value.meaning semantics []

/-- What a type stands for. -/
def type? (implementation : Implementation) (name : String) : Option Grammar.Phrase :=
  implementation.items.findSome? fun
    | .type found meaning => if found = name then some meaning else none
    | _ => none

end Implementation

/-! ## Records and their values -/

namespace Record

@[simp] theorem length_values (record : Record members V) :
    record.values.length = members.length := by
  simp [values]

/-- Records with the same values are the same. -/
theorem values_injective {first second : Record members V} (same : first.values = second.values) :
    first = second := by
  funext member listed
  obtain ⟨index, bound, rfl⟩ := List.getElem_of_mem listed
  have found := congrArg (·[index]?) same
  simpa [values, bound] using found

/-- Values related member by member are related in their order. -/
theorem forall₂_values {relation : V → V → Prop} {first second : Record members V}
    (related : ∀ member listed, relation (first member listed) (second member listed)) :
    List.Forall₂ relation first.values second.values := by
  rw [List.forall₂_iff_get]
  refine ⟨by simp, ?_⟩
  intro index bound bound'
  simpa [values] using related _ _

theorem lookup_zip {elements : List V} (distinct : members.Nodup)
    (same : elements.length = members.length) (index : Nat) (bound : index < members.length) :
    (members.zip elements).lookup members[index] = elements[index]? := by
  induction members generalizing elements index with
  | nil => simp at bound
  | cons member members ih =>
      obtain ⟨fresh, distinct⟩ := List.nodup_cons.mp distinct
      cases elements with
      | nil => simp at same
      | cons element elements =>
          cases index with
          | zero => simp
          | succ index =>
              have inside : index < members.length := by simpa using bound
              have apart : (members[index] == member) = false := by
                apply beq_false_of_ne
                rintro rfl
                exact fresh (List.getElem_mem inside)
              simpa [List.lookup_cons, apart] using ih distinct (by simpa using same) index inside

/-- There is no record with a member twice. -/
theorem nodup_of_collect {fields : List (Member × V)}
    (collected : (collect members fields).isSome) : (fields.map (·.1)).Nodup := by
  by_contra repeated
  rw [collect, dif_neg (fun complete => repeated complete.1)] at collected
  cases collected

/-- A tuple for all members makes up the record that has its elements for values. -/
theorem collect_zip (distinct : members.Nodup) {elements : List V}
    (same : elements.length = members.length) :
    ∃ record, collect members (members.zip elements) = some record ∧ record.values = elements := by
  have names : (members.zip elements).map (·.1) = members :=
    List.map_fst_zip (Nat.le_of_eq same.symm)
  have found (index : Nat) (bound : index < members.length) (inside : index < elements.length) :
      (members.zip elements).lookup members[index] = some elements[index] := by
    rw [lookup_zip distinct same index bound, List.getElem?_eq_getElem inside]
  have complete : ((members.zip elements).map (·.1)).Nodup ∧
      (∀ field ∈ members.zip elements, field.1 ∈ members) ∧
      ∀ member ∈ members, ((members.zip elements).lookup member).isSome := by
    refine ⟨by rwa [names], fun field listed => (List.of_mem_zip listed).1, ?_⟩
    intro member listed
    obtain ⟨index, bound, rfl⟩ := List.getElem_of_mem listed
    rw [found index bound (same ▸ bound)]
    rfl
  refine ⟨_, dif_pos complete, ?_⟩
  apply List.ext_getElem
  · simp [same]
  · intro index bound inside
    simp [values, found index (same ▸ inside) inside]

end Record

/-! ## Templates -/

/-- A template with texts in its gaps. -/
def Template.filled (template : Template) (shown : List String) : String :=
  template.name ++ "(" ++ String.intercalate ", "
    (template.labels.zipWith (fun label text => label ++ "=" ++ text) shown) ++ ")"

/-- A text that holds no curly brackets. -/
def Unbraced (text : List Char) : Prop := '{' ∉ text ∧ '}' ∉ text

theorem fill_append {plain : List Char} (unbraced : Unbraced plain) (rest : List Char)
    (shown : List String) :
    fill (plain ++ rest) shown = (fill rest shown).map (plain ++ ·) := by
  obtain ⟨unopened, unclosed⟩ := unbraced
  induction plain with
  | nil => simp
  | cons first plain ih =>
      simp only [List.mem_cons, not_or] at unopened unclosed
      have step (text : List Char) : fill (first :: text) shown =
          (fill text shown).map (first :: ·) := by
        rw [fill.eq_4]
        · simp [Ne.symm unopened.1, Ne.symm unclosed.1]
        all_goals intros; simp_all
      rw [List.cons_append, step, ih unopened.2 unclosed.2]
      simp [Function.comp_def]

theorem fill_gap (rest : List Char) (shown : String) (others : List String) :
    fill ("\x7b:?\x7d".toList ++ rest) (shown :: others) =
      (fill rest others).map (shown.toList ++ ·) := rfl

theorem fill_label {label : String} (unbraced : Unbraced label.toList) (rest : List Char)
    (text : String) (others : List String) :
    fill ((label ++ "=\x7b:?\x7d").toList ++ rest) (text :: others) =
      (fill rest others).map ((label ++ "=" ++ text).toList ++ ·) := by
  have behind : Unbraced (label.toList ++ ['=']) := by simpa [Unbraced] using unbraced
  have split : (label ++ "=\x7b:?\x7d").toList ++ rest =
      (label.toList ++ ['=']) ++ ("\x7b:?\x7d".toList ++ rest) := by simp
  rw [split, fill_append behind, fill_gap]
  simp [Function.comp_def]

theorem fill_labels {labels shown : List String} (same : labels.length = shown.length)
    (unbraced : ∀ label ∈ labels, Unbraced label.toList) :
    fill ((String.intercalate ", " (labels.map fun label => label ++ "=\x7b:?\x7d")).toList ++
        [')']) shown =
      some ((String.intercalate ", "
        (labels.zipWith (fun label text => label ++ "=" ++ text) shown)).toList ++ [')']) := by
  induction labels generalizing shown with
  | nil =>
      cases shown with
      | nil => simp [fill]
      | cons text shown => simp at same
  | cons label labels ih =>
      cases shown with
      | nil => simp at same
      | cons text shown =>
          obtain ⟨clean, others⟩ := List.forall_mem_cons.mp unbraced
          have later := ih (by simpa using same) others
          cases labels with
          | nil =>
              cases shown with
              | nil => simpa [fill] using fill_label clean [')'] text []
              | cons other shown => simp at same
          | cons next labels =>
              cases shown with
              | nil => simp at same
              | cons other shown =>
                  have comma : Unbraced ", ".toList := by simp [Unbraced]
                  rw [List.map_cons] at later
                  rw [List.map_cons, List.map_cons, String.intercalate_cons_cons,
                    String.toList_append, String.toList_append, List.append_assoc,
                    List.append_assoc, fill_label clean, fill_append comma, later]
                  simp [String.intercalate_cons_cons]

/-- Filling a template that holds no curly brackets of its own. -/
theorem fill_template {template : Template} (name : Unbraced template.name.toList)
    (labels : ∀ label ∈ template.labels, Unbraced label.toList) {shown : List String}
    (same : template.labels.length = shown.length) :
    fill template.text.toList shown = some (template.filled shown).toList := by
  have lead : Unbraced (template.name ++ "(").toList := by simpa [Unbraced] using name
  rw [Template.text, String.toList_append, String.toList_append, List.append_assoc,
    fill_append lead]
  have inner := fill_labels same labels
  simp only [String.toList_append] at inner ⊢
  rw [show ")".toList = [')'] from rfl, inner]
  simp [Template.filled]

end RecordDerive.Code
