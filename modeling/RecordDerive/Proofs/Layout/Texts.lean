import RecordDerive.Layout.Tokens
import RecordDerive.Proofs.Layout.Front

/-!
# Every text is laid out

Whatever is broken or kept on its line, each text of a document stands in the layout as it is.
-/

namespace RecordDerive.Layout

open Grammar (Token Bracket)

namespace Doc

mutual

/-- The texts of a document in their order. -/
def texts : Doc → List String
  | .text content => [content]
  | .group _ _ body => textsIn body
  | .capped _ _ body _ => textsIn body
  | .brk _ => []
  | .unprintable _ => []

/-- The texts of a sequence of documents in their order. -/
def textsIn : List Doc → List String
  | [] => []
  | first :: rest => first.texts ++ textsIn rest

end

/-! ## Texts of documents put together -/

@[simp] theorem texts_text (content : String) : (text content).texts = [content] := rfl

@[simp] theorem texts_brk (place : Break) : (brk place).texts = [] := rfl

@[simp] theorem texts_group (flow : Flow) (shift : Int) (body : List Doc) :
    (group flow shift body).texts = textsIn body := rfl

@[simp] theorem texts_capped (limit : Nat) (shift : Int) (body : List Doc) (last : Break) :
    (capped limit shift body last).texts = textsIn body := rfl

@[simp] theorem texts_unprintable (what : String) : (unprintable what).texts = [] := rfl

@[simp] theorem textsIn_nil : textsIn [] = [] := rfl

@[simp] theorem textsIn_cons (first : Doc) (rest : List Doc) :
    textsIn (first :: rest) = first.texts ++ textsIn rest := rfl

@[simp] theorem textsIn_append (first second : List Doc) :
    textsIn (first ++ second) = textsIn first ++ textsIn second := by
  induction first with
  | nil => simp
  | cons document rest ih => simp [ih]

@[simp] theorem textsIn_dedented (body : List Doc) : textsIn (dedented body) = textsIn body := by
  induction body using dedented.induct with
  | case1 => rfl
  | case2 place => simp [dedented]
  | case3 first rest inside ih => simp [dedented, ih]

@[simp] theorem textsIn_withoutLastInner (body : List Doc) :
    textsIn (withoutLastInner body) = textsIn body := by
  induction body using withoutLastInner.induct with
  | case1 => rfl
  | case2 place inner => simp [withoutLastInner, inner, neverBreak]
  | case3 place outer => simp [withoutLastInner, outer]
  | case4 first rest inside ih => simp [withoutLastInner, ih]

@[simp] theorem textsIn_grouped (flow : Flow) (shift : Int) (body : List Doc) :
    textsIn (grouped flow shift body) = textsIn body := by
  unfold grouped
  split <;> simp

@[simp] theorem textsIn_filled (shift : Int) (body : List Doc) :
    textsIn (filled shift body) = textsIn body := textsIn_grouped _ shift body

@[simp] theorem textsIn_uniform (shift : Int) (body : List Doc) :
    textsIn (uniform shift body) = textsIn body := textsIn_grouped _ shift body

@[simp] theorem textsIn_withMembers (lead members : List Doc) :
    textsIn (Form.withMembers lead members) =
      textsIn lead ++ ["\x7b"] ++ textsIn members ++ ["\x7d"] := by
  simp [Form.withMembers, Form.indented, innerHardBreak, hardBreak]

@[simp] theorem textsIn_flatMap {α : Type} (image : α → List Doc) (items : List α) :
    textsIn (items.flatMap image) = items.flatMap fun item => textsIn (image item) := by
  induction items with
  | nil => simp
  | cons first rest ih => simp [ih]

/-- The text of a literal is among those of the tokens it stands with. -/
theorem mem_textsIn_tokensDocs {matcher attached : Bool} {context : Context} {tokens : List Token}
    {content : String} (listed : Token.literal content ∈ tokens) :
    content ∈ textsIn (tokensDocs matcher context attached tokens) := by
  induction tokens generalizing context attached with
  | nil => cases listed
  | cons first rest ih =>
      rw [tokensDocs, textsIn_append, textsIn_append, List.mem_append, List.mem_append]
      rcases List.mem_cons.mp listed with rfl | later
      · exact .inl (.inr (by simp [tokenDocs]))
      · exact .inr (ih later)

/-- The tokens given to an expansion are laid out with it. -/
theorem mem_textsIn_expansionDocs {path : List Doc} {bracket : Bracket} {tokens : List Token}
    {content : String} (listed : Token.literal content ∈ tokens) :
    content ∈ textsIn (expansionDocs path bracket tokens) := by
  have given : tokens.isEmpty = false := by
    cases tokens with
    | nil => cases listed
    | cons => rfl
  have inside : content ∈ textsIn (tokensDocs false .start true tokens) :=
    mem_textsIn_tokensDocs listed
  simp only [expansionDocs, namedExpansionDocs, given, Bool.false_eq_true, if_false,
    textsIn_append, textsIn_uniform, textsIn_cons, filledTokens, texts_group, List.mem_append]
  exact .inl (.inr (.inr (.inl inside)))

end Doc

/-! ## Texts in layouts -/

namespace Page

/-- A text stands somewhere on a page. -/
def Shows (page : Page) (content : String) : Prop := content.toList <:+: page.text.toList

variable {page next : Page} {content : String}

theorem Shows.extend (shows : page.Shows content) (more : page.Extends next) :
    next.Shows content :=
  List.IsInfix.trans shows (List.IsPrefix.isInfix more)

theorem write_shows (page : Page) (content : String) : (page.write content).Shows content := by
  simp only [Shows, write, String.toList_append]
  exact (List.suffix_append _ _).isInfix

end Page

namespace Doc

open Page

mutual

theorem place_shows {content : String} (frame : Frame) (indent : Int) (follow : Nat)
    (document : Doc) (held : content ∈ document.texts) (page : Page) :
    (document.place frame indent follow page).Shows content := by
  cases document with
  | text written =>
      obtain rfl : content = written := by simpa using held
      rw [place]
      exact write_shows page content
  | brk place => simp at held
  | group flow shift body =>
      rw [texts_group] at held
      rw [place]
      split
      next => exact placeAll_shows _ _ _ body held page
      next => exact placeAll_shows _ _ _ body held page
  | capped limit shift body last =>
      rw [texts_capped] at held
      rw [place]
      exact (placeAll_shows _ _ _ body held page).extend (passBreak_extends _ _ _ _ _)
  | unprintable what => simp at held

theorem placeAll_shows {content : String} (frame : Frame) (indent : Int) (follow : Nat)
    (documents : List Doc) (held : content ∈ textsIn documents) (page : Page) :
    (placeAll frame indent follow documents page).Shows content := by
  cases documents with
  | nil => simp at held
  | cons first rest =>
      rw [textsIn_cons, List.mem_append] at held
      rw [placeAll]
      rcases held with here | later
      · exact (place_shows frame indent _ first here page).extend
          (Doc.placeAll_extends frame indent follow rest _)
      · exact placeAll_shows frame indent follow rest later _

end

end Doc

/-- A layout holds every text of its documents. -/
theorem layout_shows {documents : List Doc} {content : String}
    (held : content ∈ Doc.textsIn documents) :
    content.toList <:+: (layout documents).toList :=
  Doc.placeAll_shows _ 0 0 documents held .empty

end RecordDerive.Layout
