import RecordDerive.Layout.Forms
import RecordDerive.Layout.Page

/-!
# What a layout begins with

Placing a document only adds to what has been laid out.  So a layout begins with the first
text of its documents, through all the groups around it.
-/

namespace RecordDerive.Layout

/-! ## Placing adds text -/

namespace Page

/-- The text of a page with more behind it. -/
def Extends (page next : Page) : Prop := page.text.toList <+: next.text.toList

variable {page next last : Page}

theorem Extends.refl (page : Page) : page.Extends page := List.prefix_rfl

theorem Extends.trans (first : page.Extends next) (second : next.Extends last) :
    page.Extends last := List.IsPrefix.trans first second

theorem write_extends (page : Page) (content : String) : page.Extends (page.write content) := by
  simp [Extends, write]

theorem writeAny_extends (page : Page) (content : String) :
    page.Extends (page.writeAny content) := by
  rw [writeAny]
  split
  next => exact .refl page
  next => exact write_extends page content

theorem endLine_extends (page : Page) (indent : Int) : page.Extends (page.endLine indent) := by
  simp [Extends, endLine]

theorem passBreak_extends (page : Page) (frame : Frame) (indent : Int) (place : Break)
    (follow : Nat) : page.Extends (page.passBreak frame indent place follow) := by
  rw [passBreak]
  split
  next =>
    have same : page.Extends
        { page with owed := page.owed + place.blank, room := page.room - place.blank } := .refl page
    exact same.trans (writeAny_extends _ place.kept)
  next =>
    exact ((writeAny_extends page place.before).trans (endLine_extends _ _)).trans
      (writeAny_extends _ place.after)

end Page

open Page

mutual

theorem Doc.place_extends (frame : Frame) (indent : Int) (follow : Nat) (document : Doc)
    (page : Page) : page.Extends (document.place frame indent follow page) := by
  cases document with
  | text content =>
      rw [place]
      exact write_extends page content
  | brk place =>
      rw [Doc.place]
      exact passBreak_extends page frame indent place follow
  | group flow shift body =>
      rw [place]
      split
      next => exact Doc.placeAll_extends _ _ _ body page
      next => exact Doc.placeAll_extends _ _ _ body page
  | capped limit shift body last =>
      rw [place]
      exact (Doc.placeAll_extends _ _ _ body page).trans (passBreak_extends _ _ _ _ _)
  | unprintable what =>
      rw [place]
      exact .refl page

theorem Doc.placeAll_extends (frame : Frame) (indent : Int) (follow : Nat) (documents : List Doc)
    (page : Page) : page.Extends (Doc.placeAll frame indent follow documents page) := by
  cases documents with
  | nil =>
      rw [placeAll]
      exact .refl page
  | cons first rest =>
      rw [placeAll]
      exact (Doc.place_extends frame indent _ first page).trans
        (Doc.placeAll_extends frame indent follow rest _)

end

/-! ## The first text -/

namespace Doc

mutual

/-- The text that a document begins with, if it begins with any. -/
def front? : Doc → Option String
  | .text content => some content
  | .group _ _ body => frontIn? body
  | .capped _ _ body _ => frontIn? body
  | .brk _ => none
  | .unprintable _ => none

/-- The text that a sequence of documents begins with, if it begins with any. -/
def frontIn? : List Doc → Option String
  | [] => none
  | first :: _ => first.front?

end

@[simp] theorem frontIn?_nil : frontIn? [] = none := rfl

@[simp] theorem frontIn?_cons (first : Doc) (rest : List Doc) :
    frontIn? (first :: rest) = first.front? := rfl

@[simp] theorem front?_text (content : String) : (text content).front? = some content := rfl

@[simp] theorem front?_brk (place : Break) : (brk place).front? = none := rfl

@[simp] theorem front?_group (flow : Flow) (shift : Int) (body : List Doc) :
    (group flow shift body).front? = frontIn? body := rfl

@[simp] theorem front?_capped (limit : Nat) (shift : Int) (body : List Doc) (last : Break) :
    (capped limit shift body last).front? = frontIn? body := rfl

@[simp] theorem front?_unprintable (what : String) : (unprintable what).front? = none := rfl

theorem frontIn?_append {documents : List Doc} {content : String}
    (found : frontIn? documents = some content) (more : List Doc) :
    frontIn? (documents ++ more) = some content := by
  cases documents with
  | nil => simp at found
  | cons first rest => simpa using found

@[simp] theorem frontIn?_dedented (body : List Doc) : frontIn? (dedented body) = frontIn? body := by
  rcases body with _ | ⟨first, _ | ⟨second, rest⟩⟩
  · rfl
  · cases first <;> simp [dedented]
  · simp [dedented]

@[simp] theorem frontIn?_withoutLastInner (body : List Doc) :
    frontIn? (withoutLastInner body) = frontIn? body := by
  rcases body with _ | ⟨first, _ | ⟨second, rest⟩⟩
  · rfl
  · cases first with
    | brk place => cases inner : place.inner <;> simp [withoutLastInner, inner, neverBreak]
    | _ => simp [withoutLastInner]
  · simp [withoutLastInner]

@[simp] theorem frontIn?_grouped (flow : Flow) (shift : Int) (body : List Doc) :
    frontIn? (grouped flow shift body) = frontIn? body := by
  unfold grouped
  split
  next => rfl
  next => simp
  next => simp

mutual

theorem place_front {content : String} (frame : Frame) (indent : Int) (follow : Nat)
    (document : Doc) (found : document.front? = some content) (page : Page) :
    (page.write content).Extends (document.place frame indent follow page) := by
  cases document with
  | text written =>
      cases found
      rw [place]
      exact .refl _
  | brk place => simp at found
  | group flow shift body =>
      rw [front?_group] at found
      rw [place]
      split
      next => exact placeAll_front _ _ _ body found page
      next => exact placeAll_front _ _ _ body found page
  | capped limit shift body last =>
      rw [front?_capped] at found
      rw [place]
      exact (placeAll_front _ _ _ body found page).trans (passBreak_extends _ _ _ _ _)
  | unprintable what => simp at found

theorem placeAll_front {content : String} (frame : Frame) (indent : Int) (follow : Nat)
    (documents : List Doc) (found : frontIn? documents = some content) (page : Page) :
    (page.write content).Extends (placeAll frame indent follow documents page) := by
  cases documents with
  | nil => simp at found
  | cons first rest =>
      rw [frontIn?_cons] at found
      rw [placeAll]
      exact (place_front frame indent _ first found page).trans
        (Doc.placeAll_extends frame indent follow rest _)

end

end Doc

/-- A layout begins with the first text of its documents. -/
theorem layout_front {documents : List Doc} {content : String}
    (found : Doc.frontIn? documents = some content) :
    content.toList <+: (layout documents).toList := by
  have opened := Doc.placeAll_front (.broken .inconsistent) 0 0 documents found .empty
  rw [layout]
  simpa [Extends, write, Page.empty] using opened

end RecordDerive.Layout
