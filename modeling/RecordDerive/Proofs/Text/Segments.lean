import Mathlib.Data.List.Infix
import RecordDerive.Text.Segments

/-!
# Segments of names

Segments are never empty, so a joined name is empty only if it has no segments, and a
name is put behind its package by joining the segments of both.  Separators are read from
the left when a name is split and from the right when its last segment is taken; both
respect the separator behind a package unless colons stand next to it.
-/

namespace RecordDerive.Text

theorem ne_empty_of_mem_segments {name segment : String} (member : segment ∈ segments name) :
    segment ≠ "" := by
  rw [segments, List.mem_map] at member
  obtain ⟨piece, kept, rfl⟩ := member
  intro empty
  rw [List.mem_filter] at kept
  cases piece with
  | nil => simp at kept
  | cons first rest => simp at empty

@[simp] theorem join_nil : join [] = "" := rfl

@[simp] theorem join_singleton (only : String) : join [only] = only := rfl

theorem join_cons_cons (first second : String) (rest : List String) :
    join (first :: second :: rest) = first ++ separator ++ join (second :: rest) := rfl

theorem join_eq_intercalate (parts : List String) :
    join parts = String.intercalate separator parts := by
  induction parts with
  | nil => simp
  | cons first rest ih =>
      cases rest with
      | nil => simp
      | cons second others =>
          rw [join_cons_cons, ih, String.intercalate_cons_cons]

/-- Only what has a separator or a text in it is joined to something. -/
theorem join_eq_empty_iff {parts : List String} : join parts = "" ↔ parts = [] ∨ parts = [""] := by
  cases parts with
  | nil => exact iff_of_true rfl (.inl rfl)
  | cons first rest =>
      cases rest with
      | nil => simp
      | cons second others =>
          rw [join_cons_cons]
          simp [separator]

/-- A name in a package is all segments of both, joined, unless the package is a single empty
text: this is taken for no package. -/
theorem qualify_join_iff {package name : List String} (named : name ≠ []) :
    qualify (join package) (join name) = join (package ++ name) ↔ package ≠ [""] := by
  by_cases unnamed : package = [""]
  · refine iff_of_false ?_ (not_not_intro unnamed)
    obtain ⟨first, rest, rfl⟩ := List.exists_cons_of_ne_nil named
    rw [unnamed, List.cons_append, List.nil_append, join_cons_cons]
    intro same
    have longer := congrArg String.length same
    simp [qualify, separator] at longer
  · refine iff_of_true ?_ unnamed
    cases package with
    | nil => rfl
    | cons first rest =>
        have packaged : join (first :: rest) ≠ "" := by simp [join_eq_empty_iff, unnamed]
        rw [qualify, if_neg (by simpa using packaged)]
        simp only [join_eq_intercalate]
        rw [String.intercalate_append_of_ne_nil (List.cons_ne_nil first rest) named]

/-- A name in a package is all segments of both, joined. -/
theorem qualify_join {package name : List String} (named : name ≠ [])
    (full : ∀ part ∈ package, part ≠ "") :
    qualify (join package) (join name) = join (package ++ name) := by
  refine (qualify_join_iff named).mpr ?_
  rintro rfl
  exact full "" List.mem_cons_self rfl

/-! ## Pieces -/

/-- A text is passed a separator at a time, and a character at a time where none begins. -/
@[elab_as_elim]
theorem separator_induction {motive : List Char → Prop} (nil : motive [])
    (separator : ∀ rest, motive rest → motive (':' :: ':' :: rest))
    (character : ∀ first rest, (∀ after, first = ':' → rest ≠ ':' :: after) → motive rest →
      motive (first :: rest)) (text : List Char) : motive text := by
  induction text using pieces.induct with
  | case1 => exact nil
  | case2 rest ih => exact separator rest ih
  | case3 first rest apart nothing ih => exact character first rest apart ih
  | case4 first rest apart piece others found ih => exact character first rest apart ih

theorem pieces_separator (rest : List Char) : pieces (':' :: ':' :: rest) = [] :: pieces rest := rfl

/-- A character that does not begin a separator joins the first piece. -/
theorem pieces_cons {first : Char} {rest piece : List Char} {others : List (List Char)}
    (apart : ∀ after, first = ':' → rest ≠ ':' :: after) (found : pieces rest = piece :: others) :
    pieces (first :: rest) = (first :: piece) :: others := by
  rw [pieces.eq_3 _ _ apart, found]

theorem pieces_ne_nil (text : List Char) : pieces text ≠ [] := by
  induction text using separator_induction with
  | nil => exact List.cons_ne_nil _ _
  | separator rest ih => exact List.cons_ne_nil _ _
  | character first rest apart ih =>
      obtain ⟨piece, others, found⟩ := List.exists_cons_of_ne_nil ih
      rw [pieces_cons apart found]
      exact List.cons_ne_nil _ _

theorem exists_pieces (text : List Char) : ∃ piece others, pieces text = piece :: others :=
  List.exists_cons_of_ne_nil (pieces_ne_nil text)

/-- A separator between texts separates their pieces, if it cannot begin in the first of
them. -/
theorem pieces_append {before : List Char} (uncoloned : ∀ piece ∈ pieces before, ':' ∉ piece)
    (after : List Char) :
    pieces (before ++ ':' :: ':' :: after) = pieces before ++ pieces after := by
  induction before using separator_induction with
  | nil => rfl
  | separator rest ih =>
      have later := ih fun piece member => uncoloned piece (List.mem_cons_of_mem [] member)
      rw [List.cons_append, List.cons_append, pieces_separator, later, pieces_separator,
        List.cons_append]
  | character first rest apart ih =>
      obtain ⟨piece, others, found⟩ := exists_pieces rest
      rw [pieces_cons apart found] at uncoloned ⊢
      have here : ':' ∉ first :: piece := uncoloned _ List.mem_cons_self
      have later := ih fun other member => by
        rw [found] at member
        rcases List.mem_cons.mp member with rfl | behind
        · exact fun colon => here (List.mem_cons_of_mem first colon)
        · exact uncoloned other (List.mem_cons_of_mem _ behind)
      rw [List.cons_append, List.cons_append]
      rw [found, List.cons_append] at later
      refine pieces_cons ?_ later
      rintro more rfl -
      exact here List.mem_cons_self

/-- A text without separators is its only piece. -/
theorem pieces_of_unseparated {text : List Char} (unseparated : ¬[':', ':'] <:+: text) :
    pieces text = [text] := by
  induction text using separator_induction with
  | nil => rfl
  | separator rest ih => exact absurd ⟨[], rest, rfl⟩ unseparated
  | character first rest apart ih =>
      exact pieces_cons apart (ih fun inside => unseparated (List.infix_cons inside))

/-- What a text consists of is in its pieces, but for the separators. -/
theorem mem_pieces {text : List Char} {c : Char} (member : c ∈ text) :
    c = ':' ∨ ∃ piece ∈ pieces text, c ∈ piece := by
  induction text using separator_induction with
  | nil => simp at member
  | separator rest ih =>
      simp only [List.mem_cons] at member
      rcases member with colon | colon | later
      · exact .inl colon
      · exact .inl colon
      · exact (ih later).imp_right fun ⟨piece, listed, inside⟩ =>
          ⟨piece, List.mem_cons_of_mem [] listed, inside⟩
  | character first rest apart ih =>
      obtain ⟨piece, others, found⟩ := exists_pieces rest
      rw [pieces_cons apart found]
      rcases List.mem_cons.mp member with rfl | later
      · exact .inr ⟨c :: piece, List.mem_cons_self, List.mem_cons_self⟩
      · rcases ih later with colon | ⟨other, listed, inside⟩
        · exact .inl colon
        · rw [found] at listed
          rcases List.mem_cons.mp listed with rfl | behind
          · exact .inr ⟨first :: other, List.mem_cons_self, List.mem_cons_of_mem first inside⟩
          · exact .inr ⟨other, List.mem_cons_of_mem _ behind, inside⟩

theorem pieces_of_uncoloned {text : List Char} (uncoloned : ':' ∉ text) : pieces text = [text] :=
  pieces_of_unseparated fun inside => uncoloned (inside.subset List.mem_cons_self)

/-- The segments of joined texts are these texts. -/
theorem segments_join {parts : List String} (full : ∀ part ∈ parts, part ≠ "")
    (uncoloned : ∀ part ∈ parts, ':' ∉ part.toList) : segments (join parts) = parts := by
  induction parts with
  | nil => rfl
  | cons first rest ih =>
      obtain ⟨here, later⟩ := List.forall_mem_cons.mp uncoloned
      obtain ⟨some, others⟩ := List.forall_mem_cons.mp full
      have only := pieces_of_uncoloned here
      have kept : (!first.toList.isEmpty) = true := by simpa using some
      cases rest with
      | nil => simp [segments, only, kept]
      | cons second others' =>
          have behind := ih others later
          have apart : ∀ piece ∈ pieces first.toList, ':' ∉ piece := by simpa [only] using here
          have split : (join (first :: second :: others')).toList =
              first.toList ++ ':' :: ':' :: (join (second :: others')).toList := by
            simp [join_cons_cons, separator]
          rw [segments] at behind
          rw [segments, split, pieces_append apart, only, List.filter_append, List.map_append,
            behind]
          simp [kept]

/-! ## The last segment -/

section Last

variable {after text before last : List Char}

theorem splitReversed_separator (after rest : List Char) :
    splitReversed after (':' :: ':' :: rest) = some (rest.reverse, after) := rfl

theorem splitReversed_cons {first : Char} {rest : List Char}
    (apart : ∀ others, first = ':' → rest ≠ ':' :: others) (after : List Char) :
    splitReversed after (first :: rest) = splitReversed (first :: after) rest :=
  splitReversed.eq_3 _ _ _ apart

/-- Nothing behind a separator that was found matters. -/
theorem splitReversed_append (found : splitReversed after text = some (before, last))
    (more : List Char) :
    splitReversed after (text ++ more) = some (more.reverse ++ before, last) := by
  induction text using separator_induction generalizing after with
  | nil => cases found
  | separator rest =>
      cases found
      rw [List.cons_append, List.cons_append, splitReversed_separator, List.reverse_append]
  | character first rest apart ih =>
      rw [splitReversed_cons apart] at found
      rw [List.cons_append, splitReversed_cons]
      · exact ih found
      · intro others colon same
        cases rest with
        | nil => cases found
        | cons second rest =>
            cases same
            exact apart rest colon rfl

/-- Without a separator, all is passed up to the one behind. -/
theorem splitReversed_append_separator (nothing : splitReversed after text = none)
    (uncoloned : text.getLast? ≠ some ':') (more : List Char) :
    splitReversed after (text ++ ':' :: ':' :: more) =
      some (more.reverse, text.reverse ++ after) := by
  induction text using separator_induction generalizing after with
  | nil => rfl
  | separator rest => cases nothing
  | character first rest apart ih =>
      rw [splitReversed_cons apart] at nothing
      rw [List.cons_append, splitReversed_cons]
      · cases rest with
        | nil => rfl
        | cons second rest =>
            rw [ih nothing (by simpa using uncoloned)]
            simp
      · intro others colon same
        cases rest with
        | nil => exact uncoloned (by rw [colon]; rfl)
        | cons second rest =>
            cases same
            exact apart rest colon rfl

theorem mem_of_splitReversed (found : splitReversed after text = some (before, last)) {c : Char}
    (member : c ∈ last) : c ∈ text ∨ c ∈ after := by
  induction text using separator_induction generalizing after with
  | nil => cases found
  | separator rest =>
      cases found
      exact .inr member
  | character first rest apart ih =>
      rw [splitReversed_cons apart] at found
      rcases ih found with later | here
      · exact .inl (List.mem_cons_of_mem first later)
      · rcases List.mem_cons.mp here with rfl | behind
        · exact .inl List.mem_cons_self
        · exact .inr behind

theorem mem_of_mem_lastSegment {name : String} {c : Char}
    (member : c ∈ (lastSegment name).toList) : c ∈ name.toList := by
  rw [lastSegment, splitLast] at member
  cases found : splitReversed [] name.toList.reverse with
  | none =>
      rw [found] at member
      exact member
  | some halves =>
      obtain ⟨before, last⟩ := halves
      rw [found] at member
      have inside : c ∈ last := by simpa using member
      simpa using mem_of_splitReversed found inside

theorem unseparated_of_splitReversed (nothing : splitReversed after text = none) :
    ¬[':', ':'] <:+: text := by
  induction text using separator_induction generalizing after with
  | nil => simp
  | separator rest => cases nothing
  | character first rest apart ih =>
      rw [splitReversed_cons apart] at nothing
      intro inside
      rcases List.infix_cons_iff.mp inside with ⟨others, same⟩ | later
      · cases same
        exact apart others rfl rfl
      · exact ih nothing later

/-- A name in a package ends as it does without, unless a colon at its front is taken for
a part of the separator before it. -/
theorem lastSegment_qualify {package name : String}
    (uncoloned : splitLast name = none → name.toList.head? ≠ some ':') :
    lastSegment (qualify package name) = lastSegment name := by
  rw [qualify]
  split
  next => rfl
  next packaged =>
    have reversed : (package ++ separator ++ name).toList.reverse =
        name.toList.reverse ++ ':' :: ':' :: package.toList.reverse := by
      simp [separator]
    rw [lastSegment, lastSegment, splitLast, splitLast, reversed]
    cases found : splitReversed [] name.toList.reverse with
    | some halves =>
        obtain ⟨before, last⟩ := halves
        rw [splitReversed_append found]
        rfl
    | none =>
        have front : name.toList.reverse.getLast? ≠ some ':' := by
          rw [List.getLast?_reverse]
          exact uncoloned (by rw [splitLast, found]; rfl)
        rw [splitReversed_append_separator found front]
        simp

end Last

end RecordDerive.Text
