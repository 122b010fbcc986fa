import RecordDerive.Layout.Forms

/-!
# What has no layout

Putting documents together adds text and places for lines to end, both of which have a
layout.  So the first part without one is that of what was put together, in its order; and
tokens have none, whatever they are.
-/

namespace RecordDerive.Layout

open Grammar (Token Bracket)

namespace Doc

/-! ## Sequences -/

@[simp] theorem firstUnprintable_text (content : String) :
    (text content).firstUnprintable = none := rfl

@[simp] theorem firstUnprintable_brk (place : Break) :
    (brk place).firstUnprintable = none := rfl

@[simp] theorem firstUnprintable_group (flow : Flow) (shift : Int) (body : List Doc) :
    (group flow shift body).firstUnprintable = firstUnprintableIn body := rfl

@[simp] theorem firstUnprintableIn_nil : firstUnprintableIn [] = none := rfl

@[simp] theorem firstUnprintableIn_cons (first : Doc) (rest : List Doc) :
    firstUnprintableIn (first :: rest) =
      first.firstUnprintable.or (firstUnprintableIn rest) := by
  simp [firstUnprintableIn]

@[simp] theorem firstUnprintableIn_append (left right : List Doc) :
    firstUnprintableIn (left ++ right) =
      (firstUnprintableIn left).or (firstUnprintableIn right) := by
  induction left with
  | nil => simp
  | cons first rest ih => simp [ih, Option.or_assoc]

theorem firstUnprintableIn_flatMap_congr {α : Type} {image other : α → List Doc} {items : List α}
    (same : ∀ item ∈ items, firstUnprintableIn (image item) = firstUnprintableIn (other item)) :
    firstUnprintableIn (items.flatMap image) = firstUnprintableIn (items.flatMap other) := by
  induction items with
  | nil => rfl
  | cons first rest ih =>
      simp [same first List.mem_cons_self,
        ih fun item member => same item (List.mem_cons_of_mem first member)]

/-! ## Groups -/

@[simp] theorem firstUnprintableIn_dedented (body : List Doc) :
    firstUnprintableIn (dedented body) = firstUnprintableIn body := by
  fun_induction dedented body with
  | case1 => rfl
  | case2 place => simp
  | case3 first rest inside ih => simp [ih]

@[simp] theorem firstUnprintableIn_withoutLastInner (body : List Doc) :
    firstUnprintableIn (withoutLastInner body) = firstUnprintableIn body := by
  fun_induction withoutLastInner body with
  | case1 => rfl
  | case2 place inner => simp [neverBreak]
  | case3 place outer => simp
  | case4 first rest inside ih => simp [ih]

@[simp] theorem firstUnprintableIn_grouped (flow : Flow) (shift : Int) (body : List Doc) :
    firstUnprintableIn (grouped flow shift body) = firstUnprintableIn body := by
  unfold grouped
  split <;> simp

@[simp] theorem firstUnprintableIn_filled (shift : Int) (body : List Doc) :
    firstUnprintableIn (filled shift body) = firstUnprintableIn body :=
  firstUnprintableIn_grouped _ shift body

@[simp] theorem firstUnprintableIn_uniform (shift : Int) (body : List Doc) :
    firstUnprintableIn (uniform shift body) = firstUnprintableIn body :=
  firstUnprintableIn_grouped _ shift body

@[simp] theorem firstUnprintableIn_withMembers (lead members : List Doc) :
    firstUnprintableIn (Form.withMembers lead members) =
      (firstUnprintableIn lead).or (firstUnprintableIn members) := by
  simp [Form.withMembers, Form.indented, innerHardBreak, hardBreak]

/-! ## Lists -/

section Lists

variable {items : List (List Doc)}

theorem firstUnprintableIn_flatten_eq_none :
    firstUnprintableIn items.flatten = none ↔ ∀ item ∈ items, firstUnprintableIn item = none := by
  induction items with
  | nil => simp
  | cons first rest ih => simp [ih]

theorem firstUnprintableIn_interspersed {between : List Doc}
    (apart : firstUnprintableIn between = none) (items : List (List Doc)) :
    firstUnprintableIn (interspersed between items) = firstUnprintableIn items.flatten := by
  fun_induction interspersed between items with
  | case1 => rfl
  | case2 only => simp
  | case3 first rest others ih => simp [apart, ih]

theorem firstUnprintableIn_separated {finish : Doc} (ends : finish.firstUnprintable = none)
    (items : List (List Doc)) :
    firstUnprintableIn (separated finish items) = firstUnprintableIn items.flatten := by
  have inside : firstUnprintableIn (interspersed [.text ",", space] items) =
      firstUnprintableIn items.flatten := firstUnprintableIn_interspersed (by simp [space]) items
  rw [separated]
  cases items with
  | nil => rfl
  | cons first rest => simp [inside, ends]

@[simp] theorem firstUnprintableIn_commaList (items : List (List Doc)) :
    firstUnprintableIn (commaList items) = firstUnprintableIn items.flatten :=
  firstUnprintableIn_separated (by simp [trailingComma]) items

@[simp] theorem firstUnprintableIn_enclosed (opening closing : String) (items : List (List Doc)) :
    firstUnprintableIn (enclosed opening items closing) = firstUnprintableIn items.flatten := by
  simp [enclosed, zeroBreak]

@[simp] theorem firstUnprintableIn_tuple (items : List (List Doc)) :
    firstUnprintableIn (tuple items) = firstUnprintableIn items.flatten := by
  unfold tuple
  split
  next only => simp [zeroBreak, backBreak]
  next => exact firstUnprintableIn_enclosed "(" ")" items

theorem firstUnprintableIn_dropLast {body : List Doc} (printable : firstUnprintableIn body = none) :
    firstUnprintableIn body.dropLast = none := by
  induction body with
  | nil => rfl
  | cons first rest ih =>
      cases rest with
      | nil => rfl
      | cons second others =>
          rw [firstUnprintableIn_cons, Option.or_eq_none_iff] at printable
          rw [List.dropLast_cons_cons, firstUnprintableIn_cons, printable.1, ih printable.2]
          rfl

theorem firstUnprintableIn_record {path fields : List Doc}
    (named : firstUnprintableIn path = none) (inside : firstUnprintableIn fields = none) :
    firstUnprintableIn (record path fields) = none := by
  have front := firstUnprintableIn_dropLast inside
  unfold record
  split <;> simp [firstUnprintable, named, inside, front]

end Lists

end Doc

/-! ## Tokens -/

open Doc

@[simp] theorem firstUnprintableIn_breakBefore (attached spaced : Bool) (token : Token) :
    firstUnprintableIn (breakBefore attached spaced token) = none := by
  cases attached with
  | true => simp [breakBefore]
  | false =>
      cases spaced with
      | true => simp [breakBefore, space]
      | false => cases point : isPoint token <;> simp [breakBefore, point, zeroBreak]

mutual

theorem firstUnprintableIn_tokenDocs (matcher : Bool) (token : Token) :
    firstUnprintableIn (tokenDocs matcher token) = none := by
  cases token with
  | word text => simp [tokenDocs]
  | mark character joined => simp [tokenDocs]
  | literal text => simp [tokenDocs]
  | group bracket inside =>
      have ih := firstUnprintableIn_tokensDocs matcher .start true inside
      cases bracket <;> cases inside <;> simp_all [tokenDocs, space]

theorem firstUnprintableIn_tokensDocs (matcher : Bool) (context : Context) (attached : Bool)
    (tokens : List Token) :
    firstUnprintableIn (tokensDocs matcher context attached tokens) = none := by
  cases tokens with
  | nil => simp [tokensDocs]
  | cons first rest =>
      simp [tokensDocs, firstUnprintableIn_tokenDocs matcher first,
        firstUnprintableIn_tokensDocs matcher _ _ rest]

end

/-- The tokens that an expansion is given have a layout, whatever they are. -/
theorem firstUnprintableIn_expansionDocs (path : List Doc) (bracket : Bracket)
    (tokens : List Token) :
    firstUnprintableIn (expansionDocs path bracket tokens) = firstUnprintableIn path := by
  have inside : firstUnprintableIn (tokensDocs false .start true tokens) = none :=
    firstUnprintableIn_tokensDocs false .start true tokens
  cases tokens <;> cases bracket <;>
    simp [expansionDocs, namedExpansionDocs, filledTokens, inside, hardBreak, zeroBreak]

end RecordDerive.Layout
