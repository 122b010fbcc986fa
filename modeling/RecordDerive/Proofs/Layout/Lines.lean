import RecordDerive.Layout.Forms
import RecordDerive.Layout.Page

/-!
# Documents on lines of their own

Documents that begin on an empty line and end with one are laid out the same wherever they stand:
what is before them only stands before their text, and what follows them changes nothing.  So a
sequence of such documents is laid out as one after the other.  Items with members are such
documents, since their brackets are too wide for any line.
-/

namespace RecordDerive.Layout

/-! ## Pages with text before them -/

namespace Page

/-- A page with text put before all that stands on it. -/
def behind (before : String) (page : Page) : Page := { page with text := before ++ page.text }

variable {before : String} {page : Page}

@[simp] theorem text_behind : (page.behind before).text = before ++ page.text := rfl

@[simp] theorem room_behind : (page.behind before).room = page.room := rfl

theorem write_behind (content : String) :
    (page.behind before).write content = (page.write content).behind before := by
  simp [behind, write, String.append_assoc]

theorem writeAny_behind (content : String) :
    (page.behind before).writeAny content = (page.writeAny content).behind before := by
  rw [writeAny, writeAny]
  split
  next => rfl
  next => exact write_behind content

theorem endLine_behind (indent : Int) :
    (page.behind before).endLine indent = (page.endLine indent).behind before := by
  simp [behind, endLine, String.append_assoc]

theorem passBreak_behind (frame : Frame) (indent : Int) (place : Break) (follow : Nat) :
    (page.behind before).passBreak frame indent place follow =
      (page.passBreak frame indent place follow).behind before := by
  rw [passBreak, passBreak, room_behind]
  split
  next =>
    let moved : Page :=
      { page with owed := page.owed + place.blank, room := page.room - place.blank }
    have apart : ({ page.behind before with
        owed := page.owed + place.blank, room := page.room - place.blank } : Page) =
        moved.behind before := rfl
    exact apart ▸ writeAny_behind place.kept
  next => rw [writeAny_behind, endLine_behind, writeAny_behind]

end Page

open Page

mutual

/-- Text before a page stays before it. -/
theorem Doc.place_behind (frame : Frame) (indent : Int) (follow : Nat) (document : Doc)
    (before : String) (page : Page) :
    document.place frame indent follow (page.behind before) =
      (document.place frame indent follow page).behind before := by
  cases document with
  | text content =>
      rw [place, place]
      exact write_behind content
  | brk place =>
      rw [Doc.place, Doc.place]
      exact passBreak_behind frame indent place follow
  | group flow shift body =>
      rw [place, place, room_behind]
      split
      next => exact Doc.placeAll_behind _ _ _ body before page
      next => exact Doc.placeAll_behind _ _ _ body before page
  | capped limit shift body last =>
      rw [place, place, room_behind, Doc.placeAll_behind _ _ _ body before page, passBreak_behind]
  | unprintable what => rw [place, place]

theorem Doc.placeAll_behind (frame : Frame) (indent : Int) (follow : Nat) (documents : List Doc)
    (before : String) (page : Page) :
    Doc.placeAll frame indent follow documents (page.behind before) =
      (Doc.placeAll frame indent follow documents page).behind before := by
  cases documents with
  | nil => rw [placeAll, placeAll]
  | cons first rest =>
      rw [placeAll, placeAll, Doc.place_behind frame indent _ first before page,
        Doc.placeAll_behind frame indent follow rest before]

end

/-! ## Documents one after the other -/

theorem reach_append (first second : List Doc) (follow : Nat) :
    reach (first ++ second) follow = reach first (reach second follow) := by
  induction first with
  | nil => rfl
  | cons document rest ih =>
      cases document <;> simp [reach, ih]

theorem placeAll_append (frame : Frame) (indent : Int) (follow : Nat) (first second : List Doc)
    (page : Page) :
    Doc.placeAll frame indent follow (first ++ second) page =
      Doc.placeAll frame indent follow second
        (Doc.placeAll frame indent (reach second follow) first page) := by
  induction first generalizing page with
  | nil => rw [List.nil_append, Doc.placeAll]
  | cons document rest ih =>
      rw [List.cons_append, Doc.placeAll, Doc.placeAll, ih, reach_append]

/-! ## Lines of their own -/

/-- Documents that begin on an empty line and end with one, whatever follows them. -/
def OwnLines (documents : List Doc) : Prop :=
  ∀ follow, Doc.placeAll (.broken .inconsistent) 0 follow documents Page.empty =
    ⟨layout documents, 0, margin⟩

theorem OwnLines.of_placeAll {documents : List Doc} {text : String}
    (placed : ∀ follow, Doc.placeAll (.broken .inconsistent) 0 follow documents Page.empty =
      ⟨text, 0, margin⟩) : OwnLines documents := by
  intro follow
  rw [placed, layout, placed]

/-- What follows documents on lines of their own is laid out as on an empty page. -/
theorem layout_append {first : List Doc} (own : OwnLines first) (rest : List Doc) :
    layout (first ++ rest) = layout first ++ layout rest := by
  have front : (⟨layout first, 0, margin⟩ : Page) = Page.empty.behind (layout first) := by
    simp [behind, Page.empty]
  rw [layout, placeAll_append, own, front, Doc.placeAll_behind, text_behind, ← layout]

theorem layout_nil : layout [] = "" := by rw [layout, Doc.placeAll, Page.empty]

/-- Documents on lines of their own are laid out one after the other. -/
theorem layout_flatMap {α : Type} {image : α → List Doc} {items : List α}
    (own : ∀ item ∈ items, OwnLines (image item)) :
    layout (items.flatMap image) = String.join (items.map fun item => layout (image item)) := by
  induction items with
  | nil => exact layout_nil
  | cons item items ih =>
      obtain ⟨here, later⟩ := List.forall_mem_cons.mp own
      rw [List.flatMap_cons, layout_append here, ih later, List.map_cons, String.join_cons]

/-! ## Items with members -/

namespace Doc

theorem dedented_concat (front : List Doc) (place : Break) :
    dedented (front ++ [.brk place]) =
      front ++ [.brk { place with offset := place.offset - indentWidth }] := by
  induction front with
  | nil => rfl
  | cons first rest ih =>
      rw [List.cons_append, dedented, ih, List.cons_append]
      simp

theorem withoutLastInner_concat (front : List Doc) {place : Break} (outer : place.inner = false) :
    withoutLastInner (front ++ [.brk place]) = front ++ [.brk place] := by
  induction front with
  | nil => simp [withoutLastInner, outer]
  | cons first rest ih =>
      rw [List.cons_append, withoutLastInner, ih]
      simp

theorem uniform_concat (shift : Int) {front : List Doc} {place : Break} (full : front ≠ [])
    (outer : place.inner = false) :
    uniform shift (front ++ [.brk place]) =
      [.group .consistent shift (front ++ [.brk place])] := by
  have kept := withoutLastInner_concat front outer
  rw [uniform, grouped]
  · rw [kept]
  · simp
  · intro other single
    have lengths := congrArg List.length single
    simp [full] at lengths

theorem widths_append (first second : List Doc) :
    widths (first ++ second) = widths first + widths second := by
  induction first with
  | nil => simp [widths]
  | cons document rest ih => rw [List.cons_append, widths, widths, ih, Nat.add_assoc]

end Doc

/-- The line of the closing bracket of an item ends behind it. -/
theorem exists_withMembers (lead members : List Doc) :
    ∃ front, Form.withMembers lead members = front ++ [Doc.hardBreak] := by
  let inside := lead ++ [.text "\x7b", Doc.innerHardBreak] ++ members
  refine ⟨Form.indented (Doc.dedented inside) ++ [.text "\x7d"], ?_⟩
  exact (List.append_assoc _ [.text "\x7d"] [Doc.hardBreak]).symm

/-- A line ends at a break of a group that breaks everywhere. -/
theorem passBreak_consistent (page : Page) (indent : Int) (follow width : Nat) (offset : Int) :
    page.passBreak (.broken .consistent) indent { blank := width, offset } follow =
      page.endLine (indent + offset) := rfl

/-- A line ends at a break that is wider than any line. -/
theorem passBreak_hardBreak {page : Page} (room : page.room ≤ margin) (follow : Nat) :
    page.passBreak (.broken .inconsistent) 0 { blank := Doc.unboundedWidth } follow =
      page.endLine 0 := by
  have kept : Frame.keeps (.broken .inconsistent) (Doc.unboundedWidth + follow) page.room =
      false := by
    apply decide_eq_false
    rw [margin] at room
    rw [Doc.unboundedWidth]
    omega
  rw [passBreak, kept]
  rfl

/-- A bracket on an empty line, with the end of the line. -/
theorem placeAll_closing (text : String) (follow : Nat) :
    Doc.placeAll (.broken .inconsistent) 0 follow [.text "\x7d", Doc.hardBreak]
      ⟨text, 0, margin⟩ = ⟨text ++ "\x7d" ++ "\n", 0, margin⟩ := by
  have room : (Page.write ⟨text, 0, margin⟩ "\x7d").room ≤ margin := by
    apply Int.sub_le_self
    exact Int.natCast_nonneg _
  rw [Doc.placeAll, Doc.place, Doc.placeAll, Doc.hardBreak, Doc.place, passBreak_hardBreak room,
    Doc.placeAll]
  simp only [write, endLine, List.replicate_zero, String.ofList_nil, String.append_empty]
  rfl

/-- The members of an item are on lines of their own, and so is its closing bracket. -/
theorem ownLines_withMembers (lead front : List Doc) :
    OwnLines (Form.withMembers lead (front ++ [Doc.hardBreak])) := by
  let body := lead ++ [.text "\x7b", Doc.innerHardBreak] ++ front
  let last : Break := { blank := Doc.unboundedWidth, offset := -Doc.indentWidth }
  have documents : Form.withMembers lead (front ++ [Doc.hardBreak]) =
      [.group .consistent Doc.indentWidth (body ++ [.brk last]), .text "\x7d", Doc.hardBreak] := by
    rw [Form.withMembers, ← List.append_assoc, Doc.hardBreak, Doc.dedented_concat, Form.indented,
      Doc.uniform_concat Doc.indentWidth (by simp) rfl]
    rfl
  -- The break at its end alone is too wide for the line, so that the group is broken.
  have wide : ((Doc.widths (body ++ [.brk last]) + 1 : Nat) : Int) > Page.empty.room := by
    have width : Doc.widths [.brk last] = 65535 := rfl
    have room : Page.empty.room = 89 := rfl
    rw [Doc.widths_append, width, room]
    omega
  have behind : reach [.text "\x7d", Doc.hardBreak] = fun _ => 1 := rfl
  let inside := Doc.placeAll (.broken .consistent) Doc.indentWidth 0 body Page.empty
  have ended : Doc.placeAll (.broken .consistent) Doc.indentWidth 1 [.brk last] inside =
      ⟨inside.text ++ "\n", 0, margin⟩ := by
    rw [Doc.placeAll, Doc.place, passBreak_consistent, Doc.placeAll]
    rfl
  have placed (follow : Nat) : Doc.placeAll (.broken .inconsistent) 0 follow
      (Form.withMembers lead (front ++ [Doc.hardBreak])) Page.empty =
        ⟨inside.text ++ "\n" ++ "\x7d" ++ "\n", 0, margin⟩ := by
    rw [documents, Doc.placeAll, Doc.place, behind, if_pos wide, placeAll_append, Int.zero_add]
    exact (congrArg _ ended).trans (placeAll_closing _ follow)
  exact .of_placeAll placed

end RecordDerive.Layout
