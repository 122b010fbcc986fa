import RecordDerive.Proofs.Code.Promises
import RecordDerive.Proofs.Grammar.Quotation
import RecordDerive.Proofs.Layout.Texts

/-!
# Templates are formatted as they are meant

The template that values are shown through is put together from names without escaping any of
them.  No name that is rendered has a curly bracket, so that the gaps of the template are those
behind its labels: it is filled by as many values as there are fields, and by no other number.
-/

namespace RecordDerive.Code

open Extraction (toOption_map_eq_some)
open Grammar (Literal.stringContent? Literal.stringContent_quote)

/-! ## Gaps -/

/-- A character that is no bracket is put down as it is, whatever values there are. -/
theorem fill_cons {first : Char} (unopened : first ≠ '\x7b') (unclosed : first ≠ '\x7d')
    (rest : List Char) (shown : List String) :
    fill (first :: rest) shown = (fill rest shown).map (first :: ·) := by
  have plain : Unbraced [first] :=
    ⟨by simpa using unopened.symm, by simpa using unclosed.symm⟩
  exact fill_append plain rest shown

/-- A text is filled by one number of values. -/
theorem length_eq_of_fill {text : List Char} {first second : List String}
    (filled : (fill text first).isSome) (filled' : (fill text second).isSome) :
    first.length = second.length := by
  induction text, first using fill.induct generalizing second with
  | case1 rest shown others ih =>
      cases second with
      | nil => cases filled'
      | cons shown' others' =>
          rw [fill, Option.isSome_map] at filled filled'
          rw [List.length_cons, List.length_cons, ih filled filled']
  | case2 rest shown ih =>
      rw [fill, Option.isSome_map] at filled filled'
      exact ih filled filled'
  | case3 rest shown ih =>
      rw [fill, Option.isSome_map] at filled filled'
      exact ih filled filled'
  | case4 first rest shown noGap unopened unclosed bracket =>
      rw [fill.eq_4 _ _ _ unopened unclosed noGap, if_pos bracket] at filled
      cases filled
  | case5 first rest shown noGap unopened unclosed plain ih =>
      rw [not_or] at plain
      rw [fill_cons plain.1 plain.2, Option.isSome_map] at filled filled'
      exact ih filled filled'
  | case6 =>
      cases second with
      | nil => rfl
      | cons => cases filled'
  | case7 => cases filled

section Braces

variable {labels : List String} {brace : Char}

theorem count_of_unbraced {text : List Char} (unbraced : Unbraced text)
    (bracket : brace = '{' ∨ brace = '}') : text.count brace = 0 := by
  apply List.count_eq_zero_of_not_mem
  rcases bracket with rfl | rfl
  · exact unbraced.1
  · exact unbraced.2

theorem count_labels (unbraced : ∀ label ∈ labels, Unbraced label.toList)
    (bracket : brace = '{' ∨ brace = '}') :
    (String.intercalate ", " (labels.map fun label => label ++ "=\x7b:?\x7d")).toList.count brace =
      labels.length := by
  induction labels with
  | nil => rfl
  | cons label labels ih =>
      obtain ⟨clean, others⟩ := List.forall_mem_cons.mp unbraced
      have gap : (label ++ "=\x7b:?\x7d").toList.count brace = 1 := by
        rw [String.toList_append, List.count_append, count_of_unbraced clean bracket]
        rcases bracket with rfl | rfl <;> rfl
      cases labels with
      | nil => simpa using gap
      | cons next labels =>
          have comma : Unbraced ", ".toList := by simp [Unbraced]
          rw [List.map_cons] at ih
          rw [List.map_cons, List.map_cons, String.intercalate_cons_cons, String.toList_append,
            String.toList_append, List.count_append, List.count_append, gap,
            count_of_unbraced comma bracket, ih others]
          simp only [List.length_cons]
          omega

theorem count_template {template : Template} (name : Unbraced template.name.toList)
    (labels : ∀ label ∈ template.labels, Unbraced label.toList)
    (bracket : brace = '{' ∨ brace = '}') :
    template.text.toList.count brace = template.labels.length := by
  have lead : Unbraced "(".toList := by simp [Unbraced]
  have close : Unbraced ")".toList := by simp [Unbraced]
  rw [Template.text, String.toList_append, String.toList_append, String.toList_append,
    List.count_append, List.count_append, List.count_append, count_labels labels bracket,
    count_of_unbraced name bracket, count_of_unbraced lead bracket,
    count_of_unbraced close bracket]
  omega

end Braces

/-! ## Formatting calls -/

/-- A call that writes members of a value into the gaps of a template: the text has one gap a
label, right behind it, no other curly brackets, and is filled by no other number of values than
the call gives it. -/
structure Formats (implementation : Implementation) (members : List Member) (template : Template) :
    Prop where
  call : implementation.result? "fmt" =
    some (.write "f" template (members.map (Place.member "self")))
  arguments : members.length = template.labels.length
  text : template.text = template.name ++ "(" ++
    String.intercalate ", " (template.labels.map fun label => label ++ "=\x7b:?\x7d") ++ ")"
  name : Unbraced template.name.toList
  labels : ∀ label ∈ template.labels, Unbraced label.toList
  opening : template.text.toList.count '{' = members.length
  closing : template.text.toList.count '}' = members.length
  fits : ∀ shown, (fill template.text.toList shown).isSome ↔ shown.length = members.length

theorem fill_template_isSome_iff {template : Template} (name : Unbraced template.name.toList)
    (labels : ∀ label ∈ template.labels, Unbraced label.toList) (shown : List String) :
    (fill template.text.toList shown).isSome ↔ shown.length = template.labels.length := by
  constructor
  · intro filled
    have fits : fill template.text.toList template.labels = _ := fill_template name labels rfl
    exact length_eq_of_fill filled (Option.isSome_of_eq_some fits)
  · intro same
    exact Option.isSome_of_eq_some (fill_template name labels same.symm)

theorem display_formats {subject : Subject} (name : Unbraced subject.displayName.toList)
    (labels : ∀ part ∈ subject.parts, Unbraced part.label.toList) :
    Formats (Derive.display subject) subject.members
      ⟨subject.displayName, subject.parts.map (·.label)⟩ := by
  have labels : ∀ label ∈ subject.parts.map (·.label), Unbraced label.toList :=
    List.forall_mem_map.mpr labels
  have count : subject.members.length = (subject.parts.map (·.label)).length := by
    rw [Subject.members, List.length_map, List.length_map]
  refine ⟨?call, count, rfl, name, labels, ?opening, ?closing, ?fits⟩
  case call =>
    rw [Subject.members, List.map_map]
    rfl
  case opening =>
    rw [count]
    exact count_template name labels (.inl rfl)
  case closing =>
    rw [count]
    exact count_template name labels (.inr rfl)
  case fits =>
    rw [count]
    exact fill_template_isSome_iff name labels

/-! ## Texts of generated code -/

section Texts

open Layout.Doc (textsIn)

variable {content : String}

theorem mem_textsIn_result {value : Expr} (held : content ∈ textsIn value.docs) :
    content ∈ textsIn (Statement.result value).docs := by
  rw [Statement.docs, Layout.Doc.textsIn_append, Layout.Doc.textsIn_filled]
  exact List.mem_append_left _ held

theorem mem_textsIn_method {method : Method} (statement : Statement)
    (listed : statement ∈ method.body) (held : content ∈ textsIn statement.docs) :
    content ∈ textsIn method.docs := by
  rw [Method.docs, Layout.Doc.textsIn_withMembers, Layout.Doc.textsIn_flatMap]
  apply List.mem_append_left
  apply List.mem_append_right
  exact List.mem_flatMap.mpr ⟨statement, listed, held⟩

theorem mem_textsIn_implementation {implementation : Implementation} (item : Item)
    (listed : item ∈ implementation.items) (held : content ∈ textsIn item.docs) :
    content ∈ textsIn implementation.docs := by
  rw [Implementation.docs, Layout.Doc.textsIn_withMembers, Layout.Doc.textsIn_flatMap]
  apply List.mem_append_left
  apply List.mem_append_right
  exact List.mem_flatMap.mpr ⟨item, listed, held⟩

/-- The literal that a template is written as is one of the texts it is shown by. -/
theorem mem_textsIn_display (subject : Subject) :
    Text.quote (Template.text ⟨subject.displayName, subject.parts.map (·.label)⟩) ∈
      textsIn (Derive.display subject).docs := by
  refine mem_textsIn_implementation (.method _) List.mem_cons_self ?_
  refine mem_textsIn_method (.result _) List.mem_cons_self ?_
  apply mem_textsIn_result
  rw [Expr.docs]
  apply Layout.Doc.mem_textsIn_expansionDocs
  simp [writeTokens]

end Texts

/-! ## Files -/

variable {H : Type} {declaration : Declaration H} {config : Config} {file : Artifact}

theorem labels_of_stand {fields : List Field} {parts : List Part}
    (stand : List.Forall₂ (fun field part => Part.StandsFor field part) fields parts) :
    parts.map (·.label) = fields.map (·.name) := by
  induction stand with
  | nil => rfl
  | cons first others ih => rw [List.map_cons, List.map_cons, first.label, ih]

theorem display_literal {subject : Subject} (emits : Emits declaration config subject file)
    (selected : .display ∈ config.selected) :
    (Text.quote (Template.text ⟨subject.displayName, subject.parts.map (·.label)⟩)).toList <:+:
      file.contents.toList := by
  have listed : Derive.display subject ∈ config.selected.map (·.implementation subject) :=
    List.mem_map.mpr ⟨.display, selected, rfl⟩
  rw [emits.contents, String.toList_append]
  apply List.IsInfix.trans (Layout.layout_shows ?_) (List.suffix_append _ _).isInfix
  rw [Layout.Doc.textsIn_flatMap]
  exact List.mem_flatMap.mpr ⟨_, listed, mem_textsIn_display subject⟩

end RecordDerive.Code
