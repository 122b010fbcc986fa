import RecordDerive.Proofs.Code.Reading
import RecordDerive.Proofs.Code.Target

/-!
# What generated code promises

The implementations in a generated file do what their interfaces stand for.  Values are equal
if they agree in all members, a hasher is fed the members in order, all members are shown
behind their labels, and conversion to a tuple and back changes nothing.
-/

namespace RecordDerive.Code

open Derive
open Extraction (bind_eq_ok forall₂_of_mapM mapError_eq_ok toOption_map_eq_some)

/-- The members of a subject in order. -/
def Subject.members (subject : Subject) : List Member := subject.parts.map (·.member)

variable {members : List Member} {V : Type}

/-! ## Bodies -/

section Bodies

variable {scope : Scope members V} {parts : List Part}

theorem field?_record {parameter : String} {record : Record members V}
    (found : scope.lookup parameter = some (.record record)) {name : Member}
    (listed : name ∈ members) :
    Place.field? scope (.member parameter name) = some (record name listed) := by
  simp [Place.field?, found, listed]

theorem mapM_own {record : Record members V}
    (found : scope.lookup "self" = some (.record record))
    (listed : ∀ part ∈ parts, part.member ∈ members) :
    (parts.map own).mapM (Place.field? scope) =
      some (parts.pmap (fun part known => record part.member known) listed) := by
  induction parts with
  | nil => rfl
  | cons part parts ih =>
      obtain ⟨first, others⟩ := List.forall_mem_cons.mp listed
      rw [List.map_cons, List.mapM_cons, own, field?_record found first]
      simp [ih others]

section Equality

variable {first second : Record members V}

theorem agreement_meaning (semantics : FieldSemantics V)
    (left : scope.lookup "self" = some (.record first))
    (right : scope.lookup "other" = some (.record second)) {part : Part}
    (listed : part.member ∈ members) :
    (agreement part).meaning semantics scope = some
      (.truth (semantics.agree (first part.member listed) (second part.member listed)), []) := by
  simp [agreement, own, field?_record left listed, field?_record right listed]

/-- A chain of agreements holds if it held so far and goes on to. -/
theorem chain_meaning (semantics : FieldSemantics V)
    (left : scope.lookup "self" = some (.record first))
    (right : scope.lookup "other" = some (.record second))
    (listed : ∀ part ∈ parts, part.member ∈ members) {before : Expr} {verdict : Bool}
    (held : before.meaning semantics scope = some (.truth verdict, [])) :
    ∃ outcome,
      (parts.foldl (fun before part => .both before (agreement part)) before).meaning semantics
        scope = some (.truth outcome, []) ∧
      (outcome = true ↔ verdict = true ∧ ∀ part ∈ parts, ∀ listed,
        semantics.agree (first part.member listed) (second part.member listed) = true) := by
  -- The chain is nested to the left, so the induction carries what it has come to so far.
  induction parts generalizing before verdict with
  | nil => exact ⟨verdict, held, by simp⟩
  | cons part parts ih =>
      obtain ⟨here, others⟩ := List.forall_mem_cons.mp listed
      have next : (Expr.both before (agreement part)).meaning semantics scope =
          some (.truth (verdict &&
            semantics.agree (first part.member here) (second part.member here)), []) := by
        rw [Expr.meaning_both held (agreement_meaning semantics left right here)]
        simp
      obtain ⟨outcome, found, holds⟩ := ih others next
      refine ⟨outcome, found, holds.trans ?_⟩
      rw [Bool.and_eq_true, and_assoc, List.forall_mem_cons, forall_prop_of_true here]

theorem equalityBody_meaning (semantics : FieldSemantics V)
    (left : scope.lookup "self" = some (.record first))
    (right : scope.lookup "other" = some (.record second))
    (listed : ∀ part ∈ parts, part.member ∈ members) :
    ∃ verdict, bodyMeaning semantics scope (equalityBody parts) = some (.truth verdict, []) ∧
      (verdict = true ↔ ∀ part ∈ parts, ∀ listed,
        semantics.agree (first part.member listed) (second part.member listed) = true) := by
  cases parts with
  | nil =>
      refine ⟨true, ?_, by simp⟩
      simp [equalityBody, right]
  | cons part parts =>
      obtain ⟨here, others⟩ := List.forall_mem_cons.mp listed
      obtain ⟨verdict, found, holds⟩ :=
        chain_meaning semantics left right others (agreement_meaning semantics left right here)
      refine ⟨verdict, found, holds.trans ?_⟩
      rw [List.forall_mem_cons, forall_prop_of_true here]

end Equality

theorem feeding_meaning (semantics : FieldSemantics V) {record : Record members V}
    (found : scope.lookup "self" = some (.record record))
    (sink : scope.lookup "state" = some .sink)
    (listed : ∀ part ∈ parts, part.member ∈ members) :
    bodyMeaning semantics scope (parts.map fun part => .run
      (.call (core ["hash", "Hash", "hash"]) [.borrowed (own part), .value (.whole "state")])) =
      some (.nothing,
        (parts.pmap (fun part known => record part.member known) listed).map .fed) := by
  induction parts with
  | nil => rfl
  | cons part parts ih =>
      obtain ⟨here, others⟩ := List.forall_mem_cons.mp listed
      have into : isSink scope "state" = true := by simp [isSink, sink]
      have value : Place.field? scope (own part) = some (record part.member here) :=
        field?_record found here
      simp [value, into, ih others]

theorem hashBody_meaning (semantics : FieldSemantics V) {record : Record members V}
    (found : scope.lookup "self" = some (.record record))
    (sink : scope.lookup "state" = some .sink)
    (listed : ∀ part ∈ parts, part.member ∈ members) :
    bodyMeaning semantics scope (hashBody parts) =
      some (.nothing,
        (parts.pmap (fun part known => record part.member known) listed).map .fed) := by
  rw [hashBody]
  split
  next none =>
    have nothing : parts = [] := by simpa using none
    subst nothing
    simp [sink]
  next => exact feeding_meaning semantics found sink listed

theorem displayBody_meaning (semantics : FieldSemantics V) {record : Record members V}
    (found : scope.lookup "self" = some (.record record))
    (sink : scope.lookup "f" = some .sink)
    (listed : ∀ part ∈ parts, part.member ∈ members) {name : String}
    (plain : Unbraced name.toList) (labels : ∀ part ∈ parts, Unbraced part.label.toList) :
    bodyMeaning semantics scope (displayBody name parts) =
      some (.nothing, [.wrote (Template.filled ⟨name, parts.map (·.label)⟩
        ((parts.pmap (fun part known => record part.member known) listed).map
          semantics.shown))]) := by
  have into : isSink scope "f" = true := by simp [isSink, sink]
  have text := @fill_template ⟨name, parts.map (·.label)⟩ plain (by simpa using labels)
    ((parts.pmap (fun part known => record part.member known) listed).map semantics.shown)
    (by simp)
  simp [displayBody, mapM_own found listed, into, text]

theorem intoTupleBody_meaning (semantics : FieldSemantics V) {record : Record members V}
    (found : scope.lookup "self" = some (.record record))
    (listed : ∀ part ∈ parts, part.member ∈ members) :
    bodyMeaning semantics scope (intoTupleBody parts) =
      some (.tuple (parts.pmap (fun part known => record part.member known) listed), []) := by
  simp [intoTupleBody, mapM_own found listed]

/-- The elements of a tuple are taken for the parts in their order. -/
theorem mapM_elements {elements : List V} (found : scope.lookup "tuple" = some (.tuple elements))
    (start : Nat) (same : elements.length = start + parts.length)
    (small : elements.length ≤ UInt32.size) :
    ((parts.zipIdx start).map fun (part, index) =>
        (part.member, Place.member "tuple" (.position (UInt32.ofNat index)))).mapM
      (fun field => (field.2.field? scope).map (field.1, ·)) =
      some ((parts.map (·.member)).zip (elements.drop start)) := by
  induction parts generalizing start with
  | nil => simp
  | cons part parts ih =>
      rw [List.length_cons] at same
      have inside : start < elements.length := by omega
      have place : (UInt32.ofNat start).toNat = start :=
        UInt32.toNat_ofNat_of_lt' (by omega)
      have here : Place.field? scope (.member "tuple" (.position (UInt32.ofNat start))) =
          some elements[start] := by
        simp [Place.field?, found, place, inside]
      have later := ih (start + 1) (by omega)
      rw [List.zipIdx_cons, List.map_cons, List.mapM_cons, here]
      simp only [later, List.map_cons]
      rw [List.drop_eq_getElem_cons inside, List.zip_cons_cons]
      rfl

/-- The record made of a tuple has its elements for the members in their order. -/
theorem fromTupleBody_collect (semantics : FieldSemantics V)
    {scope : Scope (parts.map (·.member)) V} {elements : List V}
    (found : scope.lookup "tuple" = some (.tuple elements))
    (same : elements.length = parts.length) (small : parts.length ≤ UInt32.size) :
    bodyMeaning semantics scope (fromTupleBody parts) =
      (Record.collect (parts.map (·.member)) ((parts.map (·.member)).zip elements)).map
        fun record => (.record record, []) := by
  have fields := mapM_elements found 0 (by simpa using same) (same ▸ small)
  rw [List.drop_zero] at fields
  let members := parts.map (·.member)
  rw [fromTupleBody]
  split
  next =>
    cases collected : Record.collect members (members.zip elements) <;>
      simp [found, fields, collected, members]
  next =>
    cases collected : Record.collect members (members.zip elements) <;>
      simp [fields, collected, members]

theorem fromTupleBody_meaning (semantics : FieldSemantics V)
    (distinct : (parts.map (·.member)).Nodup) {scope : Scope (parts.map (·.member)) V}
    {elements : List V}
    (found : scope.lookup "tuple" = some (.tuple elements))
    (same : elements.length = parts.length) (small : parts.length ≤ UInt32.size) :
    ∃ record : Record (parts.map (·.member)) V,
      bodyMeaning semantics scope (fromTupleBody parts) = some (.record record, []) ∧
      record.values = elements := by
  have whole : elements.length = (parts.map (·.member)).length := by simpa using same
  obtain ⟨record, collected, values⟩ := Record.collect_zip distinct whole
  refine ⟨record, ?_, values⟩
  rw [fromTupleBody_collect semantics found same small, collected]
  rfl

end Bodies

/-! ## Operations -/

/-- Two records are found equal exactly if they agree in every member. -/
structure Equates (implementation : Implementation) (members : List Member) : Prop where
  verdict : ∀ {V : Type} (semantics : FieldSemantics V) (first second : Record members V),
    ∃ verdict, implementation.call semantics "eq" [.record first, .record second] =
        some (.truth verdict, []) ∧
      (verdict = true ↔ ∀ member listed,
        semantics.agree (first member listed) (second member listed) = true)

/-- A hasher is fed the values of a record in order, so that it is fed alike by records that
are alike in every member. -/
structure Feeds (implementation : Implementation) (members : List Member) : Prop where
  fed : ∀ {V : Type} (semantics : FieldSemantics V) (record : Record members V),
    implementation.call semantics "hash" [.record record, .sink] =
      some (.nothing, record.values.map .fed)
  alike : ∀ {V : Type} (semantics : FieldSemantics V) (relation : V → V → Prop)
    (first second : Record members V),
    (∀ member listed, relation (first member listed) (second member listed)) →
    ∃ fed fed',
      implementation.call semantics "hash" [.record first, .sink] =
        some (.nothing, fed.map .fed) ∧
      implementation.call semantics "hash" [.record second, .sink] =
        some (.nothing, fed'.map .fed) ∧
      List.Forall₂ relation fed fed'

/-- A record is shown as a name and its values in order, each behind its label. -/
structure Shows (implementation : Implementation) (members : List Member) (template : Template) :
    Prop where
  written : ∀ {V : Type} (semantics : FieldSemantics V) (record : Record members V),
    implementation.call semantics "fmt" [.record record, .sink] =
      some (.nothing, [.wrote (template.filled (record.values.map semantics.shown))])

/-- A record becomes the tuple of its values, and every tuple of that size becomes a record. -/
structure Converts (implementation : Implementation) (members : List Member)
    (labels : List String) (types : List Grammar.Phrase) : Prop where
  tuple : implementation.type? "Tuple" = some (.tuple types)
  arity : ∀ {V : Type} (semantics : FieldSemantics V),
    implementation.constant? semantics "ARITY" =
      some (.number members.length : Value members V)
  names : ∀ {V : Type} (semantics : FieldSemantics V),
    implementation.constant? semantics "FIELD_NAMES" = some (.texts labels : Value members V)
  into : ∀ {V : Type} (semantics : FieldSemantics V) (record : Record members V),
    implementation.call semantics "into_tuple" [.record record] =
      some (.tuple record.values, [])
  restores : ∀ {V : Type} (semantics : FieldSemantics V) (record : Record members V),
    implementation.call semantics "from_tuple" [.tuple record.values] =
      some (.record record, [])
  returns : ∀ {V : Type} (semantics : FieldSemantics V) (elements : List V),
    elements.length = members.length → ∃ record : Record members V,
      implementation.call semantics "from_tuple" [.tuple elements] = some (.record record, []) ∧
      implementation.call semantics "into_tuple" [.record record] = some (.tuple elements, [])

/-- What the implementation of an operation does to the members of a subject. -/
def Operation.Sound (subject : Subject) : Operation → Prop
  | .equality => Equates (Derive.equality subject) subject.members
  | .hash => Feeds (Derive.hash subject) subject.members
  | .display => Shows (Derive.display subject) subject.members
      ⟨subject.displayName, subject.parts.map (·.label)⟩
  | .product => Converts (Derive.product subject) subject.members
      (subject.parts.map (·.label)) (subject.parts.map (·.type))

section Sound

variable {subject : Subject}

theorem listed_of_part : ∀ part ∈ subject.parts, part.member ∈ subject.members :=
  fun _ known => List.mem_map_of_mem known

theorem Record.values_eq (record : Record subject.members V) :
    record.values =
      subject.parts.pmap (fun part listed => record part.member listed) listed_of_part :=
  List.pmap_map ..

theorem equality_equates : Equates (Derive.equality subject) subject.members where
  verdict := by
    intro V semantics first second
    let scope : Scope subject.members V := [("self", .record first), ("other", .record second)]
    have left : scope.lookup "self" = some (.record first) := rfl
    have right : scope.lookup "other" = some (.record second) := rfl
    obtain ⟨verdict, found, holds⟩ := equalityBody_meaning semantics left right listed_of_part
    refine ⟨verdict, found, holds.trans ?_⟩
    constructor
    · intro agree member listed
      obtain ⟨part, known, rfl⟩ := List.mem_map.mp listed
      exact agree part known listed
    · intro agree part _ listed
      exact agree part.member listed

theorem hash_feeds : Feeds (Derive.hash subject) subject.members := by
  have fed {V : Type} (semantics : FieldSemantics V) (record : Record subject.members V) :
      (Derive.hash subject).call semantics "hash" [.record record, .sink] =
        some (.nothing, record.values.map .fed) := by
    let scope : Scope subject.members V := [("self", .record record), ("state", .sink)]
    have own : scope.lookup "self" = some (.record record) := rfl
    rw [record.values_eq]
    exact hashBody_meaning semantics own rfl listed_of_part
  refine ⟨fed, ?_⟩
  intro V semantics relation first second related
  exact ⟨_, _, fed semantics first, fed semantics second, Record.forall₂_values related⟩

theorem display_shows (name : Unbraced subject.displayName.toList)
    (labels : ∀ part ∈ subject.parts, Unbraced part.label.toList) :
    Shows (Derive.display subject) subject.members
      ⟨subject.displayName, subject.parts.map (·.label)⟩ where
  written := by
    intro V semantics record
    let scope : Scope subject.members V := [("self", .record record), ("f", .sink)]
    have own : scope.lookup "self" = some (.record record) := rfl
    rw [record.values_eq]
    exact displayBody_meaning semantics own rfl listed_of_part name labels

theorem product_converts (distinct : subject.members.Nodup)
    (small : subject.parts.length ≤ UInt32.size) :
    Converts (Derive.product subject) subject.members (subject.parts.map (·.label))
      (subject.parts.map (·.type)) := by
  have count : subject.members.length = subject.parts.length := List.length_map _
  have into {V : Type} (semantics : FieldSemantics V) (record : Record subject.members V) :
      (Derive.product subject).call semantics "into_tuple" [.record record] =
        some (.tuple record.values, []) := by
    let scope : Scope subject.members V := [("self", .record record)]
    have own : scope.lookup "self" = some (.record record) := rfl
    rw [record.values_eq]
    exact intoTupleBody_meaning semantics own listed_of_part
  have back {V : Type} (semantics : FieldSemantics V) (elements : List V)
      (same : elements.length = subject.members.length) :
      ∃ record : Record subject.members V,
        (Derive.product subject).call semantics "from_tuple" [.tuple elements] =
          some (.record record, []) ∧ record.values = elements := by
    let scope : Scope subject.members V := [("tuple", .tuple elements)]
    have given : scope.lookup "tuple" = some (.tuple elements) := rfl
    exact fromTupleBody_meaning semantics distinct given (same.trans count) small
  refine ⟨rfl, ?arity, ?names, into, ?restores, ?returns⟩
  case arity =>
    intro V semantics
    rw [count]
    rfl
  case names =>
    intro V semantics
    rfl
  case restores =>
    intro V semantics record
    obtain ⟨found, read, same⟩ := back semantics record.values (by simp)
    rw [Record.values_injective same] at read
    exact read
  case returns =>
    intro V semantics elements same
    obtain ⟨record, read, values⟩ := back semantics elements same
    exact ⟨record, read, values ▸ into semantics record⟩

end Sound

/-! ## Files -/

/-- The part of generated code that a field becomes. -/
structure Part.StandsFor (field : Field) (part : Part) : Prop where
  member : memberOf field = .ok part.member
  label : part.label = field.name
  type : Grammar.Phrase.readType field.type = .ok part.type

theorem partOf_eq_ok {field : Field} {part : Part} (found : partOf field = .ok part) :
    part.StandsFor field := by
  obtain ⟨member, named, found⟩ := bind_eq_ok found
  obtain ⟨type, typed, found⟩ := bind_eq_ok found
  cases found
  exact ⟨mapError_eq_ok named, rfl, mapError_eq_ok typed⟩

/-- A member has a name of letters, numerals and underscores. -/
theorem not_mem_of_memberOf {field : Field} {member : Member} (named : memberOf field = .ok member)
    {c : Char} (odd : isNameCharacter c = false) (undigited : c.isDigit = false) :
    c ∉ field.name.toList := by
  rw [memberOf] at named
  split at named
  next positional =>
    rw [Field.isPositional, Bool.and_eq_true] at positional
    intro inside
    simp [List.all_eq_true.mp positional.2 c inside] at undigited
  next =>
    apply not_mem_of_isName odd
    by_contra unnamed
    rw [fieldIdentifier, if_pos (by simpa using unnamed)] at named
    cases named

/-- A field that is a member has no curly brackets in its name. -/
theorem Part.StandsFor.unbraced {field : Field} {part : Part} (stands : part.StandsFor field) :
    Unbraced part.label.toList := by
  rw [stands.label]
  exact ⟨not_mem_of_memberOf stands.member (by decide) (by decide),
    not_mem_of_memberOf stands.member (by decide) (by decide)⟩

theorem unbraced_labels {fields : List Field} {parts : List Part}
    (stand : List.Forall₂ (fun field part => Part.StandsFor field part) fields parts) :
    ∀ part ∈ parts, Unbraced part.label.toList := by
  induction stand with
  | nil => simp
  | cons first others ih => exact List.forall_mem_cons.mpr ⟨first.unbraced, ih⟩

/-- There is a text for some operations if nothing is wrong with their parts, and it is the
layout of them all. -/
theorem fileText_eq_ok_iff {subject : Subject} {selected : List Operation} {text : String} :
    fileText subject selected = .ok text ↔
      hasLatePart subject selected = false ∧ fileFault subject selected = none ∧
        Layout.Doc.firstUnprintableIn (fileDocs subject selected) = none ∧
        text = Layout.layout (fileDocs subject selected) := by
  constructor
  · intro written
    rw [fileText] at written
    split at written
    next => cases written
    next early =>
      refine ⟨by simpa using early, ?_⟩
      cases fault : fileFault subject selected with
      | some cause =>
          rw [fault] at written
          cases written
      | none =>
          rw [fault] at written
          dsimp only at written
          split at written
          next => cases written
          next printable =>
            cases written
            exact ⟨rfl, printable, rfl⟩
  · rintro ⟨early, sound, printable, rfl⟩
    rw [fileText, early, sound]
    dsimp only
    rw [printable]
    rfl

variable {H : Type} {declaration : Declaration H} {config : Config} {file : Artifact}

/-- A file is made up of the implementations for a subject, whose parts stand for the fields
of the declaration one by one. -/
structure Emits (declaration : Declaration H) (config : Config) (subject : Subject)
    (file : Artifact) : Prop where
  read : subjectOf declaration config = .ok subject
  parts : List.Forall₂ (fun field part => Part.StandsFor field part) declaration.fields
    subject.parts
  shown : subject.displayName = Text.lastSegment declaration.name
  contents : file.contents = (if config.header then headerOf declaration else "") ++
    Layout.layout ((config.selected.map (·.implementation subject)).flatMap Implementation.docs)

theorem subjectOf_eq_ok {subject : Subject} (found : subjectOf declaration config = .ok subject) :
    List.Forall₂ (fun field part => Part.StandsFor field part) declaration.fields subject.parts ∧
      subject.displayName = Text.lastSegment declaration.name := by
  obtain ⟨path, -, found⟩ := bind_eq_ok found
  obtain ⟨runtime, -, found⟩ := bind_eq_ok found
  obtain ⟨parts, each, found⟩ := bind_eq_ok found
  cases found
  exact ⟨(forall₂_of_mapM each).imp fun _ _ part => partOf_eq_ok part, rfl⟩

/-- A file is made up of the implementations for some subject, and none of the parts comes too
late in the tuple of all of them. -/
theorem exists_emits (rendered : render declaration config = .ok file) :
    ∃ subject, Emits declaration config subject file ∧
      hasLatePart subject config.selected = false := by
  obtain ⟨subject, found, rendered⟩ := bind_eq_ok (mapError_eq_ok rendered)
  obtain ⟨body, written, rendered⟩ := bind_eq_ok rendered
  obtain ⟨target, -, rendered⟩ := bind_eq_ok rendered
  cases rendered
  obtain ⟨early, -, -, rfl⟩ := fileText_eq_ok_iff.mp written
  obtain ⟨parts, shown⟩ := subjectOf_eq_ok found
  refine ⟨subject, ⟨found, parts, shown, ?_⟩, early⟩
  rw [List.flatMap_map]
  rfl

/-- The name that values are shown with has no curly brackets, since a path was formed from it. -/
theorem unbraced_displayName {subject : Subject} (emits : Emits declaration config subject file)
    (rendered : render declaration config = .ok file) : Unbraced subject.displayName.toList := by
  have targeted := targetOf_eq_ok (target_of_render rendered)
  rw [emits.shown]
  exact ⟨targeted.not_mem_lastSegment (by decide) (by decide),
    targeted.not_mem_lastSegment (by decide) (by decide)⟩

theorem length_le_of_early {subject : Subject} (early : hasLatePart subject config.selected = false)
    (selected : .product ∈ config.selected) : subject.parts.length ≤ UInt32.size := by
  have few : subject.parts.length < UInt32.size := by simpa [hasLatePart, selected] using early
  exact Nat.le_of_lt few

end RecordDerive.Code
