import RecordDerive.Proofs.Code.Promises
import RecordDerive.Proofs.Grammar.Progress
import RecordDerive.Proofs.Layout.Front

/-!
# What the header adds

A file with a header has the contents of the file without one behind it.  The header shows
the types of fields as they are given.  So it is made up of comments as long as every line of
a type but its first goes on as one, and changes no token of the file if all types are
single lines.
-/

namespace RecordDerive.Code

open Extraction (bind_eq_ok mapError_eq_ok)
open Grammar.Lexer
open Layout
open Layout.Doc (frontIn? frontIn?_append frontIn?_grouped frontIn?_dedented)

/-! ## Lines -/

/-- A line that shows nothing but a comment. -/
def IsComment (line : List Char) : Prop := line = [] ∨ "//".toList <+: line

instance : DecidablePred IsComment := fun line =>
  inferInstanceAs (Decidable (line = [] ∨ "//".toList <+: line))

/-- What stands behind each line feed of a text. -/
def afterFeeds : List Char → List (List Char)
  | [] => []
  | first :: rest => if first = '\n' then rest :: afterFeeds rest else afterFeeds rest

/-- The first line of a text. -/
def firstLine (text : List Char) : List Char := text.takeWhile (· != '\n')

theorem splitOn_eq_map (text : List Char) :
    text.splitOn '\n' = (text :: afterFeeds text).map firstLine := by
  induction text with
  | nil => rfl
  | cons first rest ih =>
      rw [List.splitOn, List.splitOnP_cons_eq_if_modifyHead, ← List.splitOn, ih]
      by_cases feed : first = '\n'
      · simp [afterFeeds, firstLine, feed]
      · simp [afterFeeds, firstLine, feed]

theorem afterFeeds_append (left right : List Char) :
    afterFeeds (left ++ right) = (afterFeeds left).map (· ++ right) ++ afterFeeds right := by
  induction left with
  | nil => rfl
  | cons first left ih =>
      by_cases feed : first = '\n' <;> simp [afterFeeds, feed, ih]

theorem afterFeeds_eq_nil {text : List Char} (single : '\n' ∉ text) : afterFeeds text = [] := by
  induction text with
  | nil => rfl
  | cons first rest ih =>
      rw [List.mem_cons, not_or] at single
      rw [afterFeeds, if_neg (Ne.symm single.1), ih single.2]

/-- The lines of a text are comments if it begins with one, and each line feed is followed by
one. -/
theorem forall_lines_iff (text : List Char) :
    (∀ line ∈ text.splitOn '\n', IsComment line) ↔
      IsComment (firstLine text) ∧ ∀ after ∈ afterFeeds text, IsComment (firstLine after) := by
  rw [splitOn_eq_map, List.map_cons, List.forall_mem_cons, List.forall_mem_map]

/-- What is left of a text behind a line feed goes on as a comment or with another line. -/
def Continued (after : List Char) : Prop := after.head? = some '\n' ∨ "//".toList <+: after

instance : DecidablePred Continued := fun after =>
  inferInstanceAs (Decidable (after.head? = some '\n' ∨ "//".toList <+: after))

theorem isComment_append {after more : List Char} {c : Char} (begins : more.head? = some c)
    (unfed : c ≠ '\n') (other : c ≠ '/') :
    IsComment (firstLine (after ++ more)) ↔ Continued after := by
  obtain ⟨behind, rfl⟩ := List.head?_eq_some_iff.mp begins
  -- Whether a comment begins here is seen from two characters.
  match after with
  | [] => simp [IsComment, Continued, firstLine, unfed, other.symm]
  | [first] =>
      by_cases feed : first = '\n' <;>
        simp [IsComment, Continued, firstLine, feed, unfed, other.symm]
  | first :: second :: rest =>
      by_cases feed : first = '\n' <;> by_cases feed' : second = '\n' <;>
        simp [IsComment, Continued, firstLine, feed, feed']

/-! ## The header -/

/-- A field as a header shows it. -/
def shownField (field : Field) : String := field.name ++ ": " ++ field.type

/-- The fields as a header shows them, up to its end. -/
def listing (fields : List Field) : String :=
  String.intercalate ", " (fields.map shownField) ++ " \x7d\n\n"

theorem listing_cons (first : Field) (rest : List Field) :
    ∃ more, listing (first :: rest) = shownField first ++ more ∧
      afterFeeds more.toList = afterFeeds (listing rest).toList ∧
      ∃ c, more.toList.head? = some c ∧ c ≠ '\n' ∧ c ≠ '/' := by
  cases rest with
  | nil =>
      refine ⟨" \x7d\n\n", ?_, ?_, ' ', rfl, by decide, by decide⟩
      · simp [listing]
      · simp [listing]
  | cons second others =>
      refine ⟨", " ++ listing (second :: others), ?_, ?_, ',', by simp, by decide, by decide⟩
      · simp [listing, String.intercalate_cons_cons, String.append_assoc]
      · rw [String.toList_append, afterFeeds_append]
        rfl

/-- The lines of a listing are comments if those of the types go on as comments. -/
theorem forall_afterFeeds_listing {fields : List Field}
    (single : ∀ field ∈ fields, '\n' ∉ field.name.toList) :
    (∀ after ∈ afterFeeds (listing fields).toList, IsComment (firstLine after)) ↔
      ∀ field ∈ fields, ∀ after ∈ afterFeeds field.type.toList, Continued after := by
  induction fields with
  | nil =>
      have ends : ∀ after ∈ afterFeeds (listing []).toList, IsComment (firstLine after) := by decide
      exact iff_of_true ends nofun
  | cons first rest ih =>
      obtain ⟨here, later⟩ := List.forall_mem_cons.mp single
      obtain ⟨more, listed, feeds, c, begins, unfed, other⟩ := listing_cons first rest
      have shown : afterFeeds (shownField first).toList = afterFeeds first.type.toList := by
        rw [shownField, String.toList_append, String.toList_append, afterFeeds_append,
          afterFeeds_append, afterFeeds_eq_nil here]
        rfl
      rw [listed, String.toList_append, afterFeeds_append, shown, feeds, List.forall_mem_append,
        List.forall_mem_map, ih later, List.forall_mem_cons]
      simp only [isComment_append begins unfed other]

/-- What opens the lines of a header. -/
def commentMark : String := "// "

/-- The first line of every header. -/
def notice : String := "@generated by prodgen (template v1). Do not edit."

/-- What stands before the fields in the second line of a header. -/
def lead (name : String) : String := "Source: " ++ name ++ " \x7b "

variable {H : Type} {declaration : Declaration H}

theorem headerOf_eq (declaration : Declaration H) :
    headerOf declaration = commentMark ++ notice ++ "\n" ++
      (commentMark ++ lead declaration.qualifiedName ++ listing declaration.fields) := by
  have version : "// @generated by prodgen (template v" ++ toString templateVersion ++
      "). Do not edit.\n" = commentMark ++ notice ++ "\n" := by decide
  have unfolded : headerOf declaration = "// @generated by prodgen (template v" ++
      toString templateVersion ++ "). Do not edit.\n" ++ "// Source: " ++
      declaration.qualifiedName ++ " \x7b " ++
      String.intercalate ", " (declaration.fields.map shownField) ++ " \x7d\n\n" := rfl
  rw [unfolded, version]
  simp only [lead, listing, String.append_assoc]
  rfl

/-- Nothing that a header shows besides types has several lines. -/
structure SingleLined (declaration : Declaration H) : Prop where
  name : '\n' ∉ declaration.qualifiedName.toList
  fields : ∀ field ∈ declaration.fields, '\n' ∉ field.name.toList

theorem SingleLined.lead (single : SingleLined declaration) :
    '\n' ∉ (lead declaration.qualifiedName).toList := by
  simp [Code.lead, single.name]

theorem isComment_firstLine (rest : List Char) :
    IsComment (firstLine (commentMark.toList ++ rest)) := by
  simp [IsComment, firstLine, commentMark]

/-- A header is made up of comments if those lines of types are that are not their first. -/
theorem forall_lines_headerOf (single : SingleLined declaration) :
    (∀ line ∈ (headerOf declaration).toList.splitOn '\n', IsComment line) ↔
      ∀ field ∈ declaration.fields, ∀ after ∈ afterFeeds field.type.toList, Continued after := by
  have first : afterFeeds (commentMark ++ notice).toList = [] := by decide
  have second : afterFeeds (commentMark ++ lead declaration.qualifiedName).toList = [] := by
    apply afterFeeds_eq_nil
    simp [commentMark, single.lead]
  have feeds : afterFeeds (headerOf declaration).toList =
      (commentMark ++ lead declaration.qualifiedName ++ listing declaration.fields).toList ::
        afterFeeds (listing declaration.fields).toList := by
    rw [headerOf_eq]
    simp only [String.toList_append, afterFeeds_append] at first second ⊢
    simp [first, second, afterFeeds]
  rw [forall_lines_iff, feeds, List.forall_mem_cons, ← forall_afterFeeds_listing single.fields]
  rw [and_iff_right, and_iff_right]
  · rw [String.append_assoc, String.toList_append]
    exact isComment_firstLine _
  · rw [headerOf_eq, String.append_assoc, String.append_assoc, String.toList_append]
    exact isComment_firstLine _

/-- A header of single lines is passed over by readers. -/
theorem solid_headerOf (single : SingleLined declaration)
    (types : ∀ field ∈ declaration.fields, '\n' ∉ field.type.toList) (body : List Char) :
    solid ((headerOf declaration).toList ++ body) = solid body := by
  have fields : '\n' ∉ (String.intercalate ", " (declaration.fields.map shownField)).toList := by
    intro feed
    rcases mem_intercalate feed with between | ⟨shown, listed, inside⟩
    · exact absurd between (by decide)
    · obtain ⟨field, member, rfl⟩ := List.mem_map.mp listed
      simp [shownField, single.fields field member, types field member] at inside
  have first : '\n' ∉ notice.toList := by decide
  have second : '\n' ∉ (lead declaration.qualifiedName).toList ++
      (String.intercalate ", " (declaration.fields.map shownField)).toList ++ " \x7d".toList := by
    simpa [single.lead] using fields
  have split : (headerOf declaration).toList ++ body =
      "// ".toList ++ (notice.toList ++ '\n' :: ("// ".toList ++
        ((lead declaration.qualifiedName).toList ++
          (String.intercalate ", " (declaration.fields.map shownField)).toList ++ " \x7d".toList ++
            '\n' :: '\n' :: body))) := by
    simp [headerOf_eq, commentMark, listing]
  rw [split, solid_line first, solid_line second]
  exact solid_of_blank (by decide) (by decide) body

theorem tokens_headerOf (single : SingleLined declaration)
    (types : ∀ field ∈ declaration.fields, '\n' ∉ field.type.toList) {body : String}
    (unmarked : withoutByteOrderMark body.toList = body.toList) :
    tokens (headerOf declaration ++ body) = tokens body := by
  have opened : withoutByteOrderMark (headerOf declaration ++ body).toList =
      (headerOf declaration).toList ++ body.toList := by
    simp [headerOf_eq, commentMark, withoutByteOrderMark]
  rw [tokens, tokens, opened, unmarked, lexemes_of_solid (solid_headerOf single types body.toList)]

/-! ## Files -/

theorem frontIn?_implementation (implementation : Implementation) :
    frontIn? implementation.docs = some "impl" := by
  have begins : frontIn? (Form.indented [.text "impl"]) = some "impl" := by
    simp [Form.indented, Doc.uniform]
  rw [Implementation.docs, Form.withMembers, Form.indented, Doc.uniform]
  apply frontIn?_append
  rw [frontIn?_grouped, frontIn?_dedented]
  iterate 3 apply frontIn?_append
  rw [Doc.filled, frontIn?_grouped]
  iterate 3 apply frontIn?_append
  exact frontIn?_append begins _

/-- The implementations in a file are not taken for a byte order mark. -/
theorem withoutByteOrderMark_fileText {subject : Subject} {selected : List Operation}
    {body : String} (written : fileText subject selected = .ok body) :
    withoutByteOrderMark body.toList = body.toList := by
  obtain ⟨-, -, -, rfl⟩ := fileText_eq_ok_iff.mp written
  cases selected with
  | nil => rfl
  | cons first rest =>
      have begins : "impl".toList <+: (layout (fileDocs subject (first :: rest))).toList := by
        apply layout_front
        exact frontIn?_append (frontIn?_implementation _) _
      obtain ⟨behind, same⟩ := begins
      rw [← same]
      rfl

theorem singleLined_fields {fields : List Field} {parts : List Part}
    (stand : List.Forall₂ (fun field part => Part.StandsFor field part) fields parts) :
    ∀ field ∈ fields, '\n' ∉ field.name.toList := by
  induction stand with
  | nil => nofun
  | cons first rest ih =>
      exact List.forall_mem_cons.mpr ⟨not_mem_of_memberOf first.member (by decide) (by decide), ih⟩

/-- A declaration with a file shows nothing that has several lines but types. -/
theorem singleLined_of_render {config : Config} {file : Artifact}
    (rendered : render declaration config = .ok file) : SingleLined declaration := by
  have targeted := targetOf_eq_ok (target_of_render rendered)
  obtain ⟨subject, found, -⟩ := bind_eq_ok (mapError_eq_ok rendered)
  obtain ⟨parts, -⟩ := subjectOf_eq_ok found
  exact ⟨targeted.not_mem_qualifiedName (by decide) (by decide), singleLined_fields parts⟩

/-- Switching the header off leaves everything but the header. -/
theorem exists_plain {config : Config} {file : Artifact}
    (rendered : render declaration { config with header := true } = .ok file) :
    ∃ plain, render declaration { config with header := false } = .ok plain ∧
      plain.target = file.target ∧ file.contents = headerOf declaration ++ plain.contents ∧
      withoutByteOrderMark plain.contents.toList = plain.contents.toList := by
  obtain ⟨subject, found, rendered⟩ := bind_eq_ok (mapError_eq_ok rendered)
  obtain ⟨body, written, rendered⟩ := bind_eq_ok rendered
  obtain ⟨target, targeted, rendered⟩ := bind_eq_ok rendered
  cases rendered
  have found : subjectOf declaration { config with header := false } = .ok subject := found
  have written : fileText subject { config with header := false }.selected = .ok body := written
  refine ⟨⟨target, "" ++ body⟩, ?_, rfl, ?_, ?_⟩
  · unfold render renderParts
    rw [found]
    show Except.mapError _ (fileText subject _ >>= _) = _
    rw [written]
    show Except.mapError _ (Except.mapError _ (targetOf declaration) >>= _) = _
    rw [targeted]
    rfl
  · rw [String.empty_append]
    rfl
  · rw [String.empty_append]
    exact withoutByteOrderMark_fileText written

/-- A file with a header is the one without, behind comments if every line of a type but its
first goes on as one.  If all types are single lines, the header changes no token. -/
theorem render_header {config : Config} {file : Artifact}
    (rendered : render declaration { config with header := true } = .ok file) :
    ∃ plain, render declaration { config with header := false } = .ok plain ∧
      plain.target = file.target ∧ file.contents = headerOf declaration ++ plain.contents ∧
      ((∀ line ∈ (headerOf declaration).toList.splitOn '\n', IsComment line) ↔
        ∀ field ∈ declaration.fields, ∀ after ∈ afterFeeds field.type.toList, Continued after) ∧
      ((∀ field ∈ declaration.fields, '\n' ∉ field.type.toList) →
        tokens file.contents = tokens plain.contents) := by
  have single := singleLined_of_render rendered
  obtain ⟨plain, rendered', target, contents, unmarked⟩ := exists_plain rendered
  refine ⟨plain, rendered', target, contents, forall_lines_headerOf single, ?_⟩
  intro types
  rw [contents]
  exact tokens_headerOf single types unmarked

/-- A point whose field has some type. -/
def pointOf (type : String) : Declaration Nat := ⟨0, "geo", "Point", [⟨"x", type⟩]⟩

theorem render_header_pointOf :
    ∃ file plain, render (pointOf "Vec<u8>") { header := true } = .ok file ∧
      render (pointOf "Vec<u8>") { header := false } = .ok plain ∧
      file.contents = headerOf (pointOf "Vec<u8>") ++ plain.contents ∧
      (∀ line ∈ (headerOf (pointOf "Vec<u8>")).toList.splitOn '\n', IsComment line) ∧
      tokens file.contents = tokens plain.contents := by
  have succeeds : (render (pointOf "Vec<u8>") { header := true }).toOption.isSome = true := by
    decide +kernel
  have single : ∀ field ∈ (pointOf "Vec<u8>").fields, '\n' ∉ field.type.toList := by
    decide
  cases rendered : render (pointOf "Vec<u8>") { header := true } with
  | error stop =>
      rw [rendered] at succeeds
      cases succeeds
  | ok file =>
      obtain ⟨plain, rendered', -, contents, comments, same⟩ :=
        @render_header Nat (pointOf "Vec<u8>") {} file rendered
      refine ⟨file, plain, rfl, rendered', contents, comments.mpr ?_, same single⟩
      intro field member after behind
      rw [afterFeeds_eq_nil (single field member)] at behind
      cases behind

theorem tokens_headerOf_pointOf : tokens (headerOf (pointOf "Vec<\nu8>")) = none := by
  have split : withoutByteOrderMark (headerOf (pointOf "Vec<\nu8>")).toList =
      "// ".toList ++ (notice.toList ++ '\n' :: ("// ".toList ++
        ("Source: geo::Point \x7b x: Vec<".toList ++ '\n' :: "u8> \x7d\n\n".toList))) := by
    have name : (pointOf "Vec<\nu8>").qualifiedName = "geo::Point" := by decide
    have shown : String.intercalate ", " ((pointOf "Vec<\nu8>").fields.map shownField) =
        "x: Vec<\nu8>" := by decide
    simp [headerOf_eq, withoutByteOrderMark, commentMark, lead, listing, name, shown]
  have passed : solid (withoutByteOrderMark (headerOf (pointOf "Vec<\nu8>")).toList) =
      solid "u8> \x7d\n\n".toList := by
    rw [split, solid_line (by decide), solid_line (by decide)]
  rw [tokens, lexemes_of_solid passed]
  decide

/-- The second line of a type is a line of the file.  This file has no tokens at all, since it
closes a bracket that is not open. -/
theorem header_not_comment :
    let config : Config := { operations := [] }
    ∃ file plain, render (pointOf "Vec<\nu8>") { config with header := true } = .ok file ∧
      render (pointOf "Vec<\nu8>") { config with header := false } = .ok plain ∧
      (¬∃ comments, file.contents = comments ++ plain.contents ∧
        ∀ line ∈ comments.toList.splitOn '\n', IsComment line) ∧
      tokens file.contents = none ∧ tokens plain.contents = some [] := by
  intro config
  have succeeds : (render (pointOf "Vec<\nu8>") { config with header := true }).toOption.isSome =
      true := by decide +kernel
  have bare : (render (pointOf "Vec<\nu8>") { config with header := false }).toOption.map
      (·.contents) = some "" := by decide +kernel
  cases rendered : render (pointOf "Vec<\nu8>") { config with header := true } with
  | error stop =>
      rw [rendered] at succeeds
      cases succeeds
  | ok file =>
      have single := singleLined_of_render rendered
      obtain ⟨plain, rendered', -, contents, -⟩ := exists_plain rendered
      rw [rendered'] at bare
      have empty : plain.contents = "" := Option.some.inj bare
      refine ⟨file, plain, rfl, rendered', ?_, ?_, ?_⟩
      · rintro ⟨comments, split, each⟩
        have same : comments = headerOf (pointOf "Vec<\nu8>") := by
          rw [contents] at split
          exact (String.append_left_inj plain.contents |>.mp split).symm
        rw [same, forall_lines_headerOf single] at each
        exact absurd each (by decide)
      · rw [contents, empty, String.append_empty]
        exact tokens_headerOf_pointOf
      · rw [empty]
        rfl

end RecordDerive.Code
