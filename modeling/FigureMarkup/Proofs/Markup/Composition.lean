import FigureMarkup.Proofs.Markup.Brackets
import FigureMarkup.Proofs.Markup.Reading

/-!
# Documents one after the other

A document can be cut between units. Reading it gives what reading both parts gives, where all
places of the second part move by the size and the line breaks of the first. The errors of all units
are collected, so an error in one part hides no error in the other.
-/

namespace FigureMarkup.Markup

open Text

/-! ## Text in front -/

/-- A unit, when some text is put in front of its document. -/
def Bracketed.behind (text : List Char) (unit : Bracketed) : Bracketed :=
  { unit with
    span := unit.span.shift (byteLength text)
    line := unit.line + text.count '\n' }

/-- A declaration, when some text is put in front of its document. -/
def Declaration.behind (text : List Char) (declaration : Declaration) : Declaration :=
  { declaration with
    span := declaration.span.shift (byteLength text)
    line := declaration.line + text.count '\n' }

/-- An error, when some text is put in front of its document. The message and the expected tokens
do not change. -/
def ParseError.behind (text : List Char) : ParseError → ParseError
  | .brackets error =>
      .brackets ⟨error.fault, error.span.shift (byteLength text), error.line + text.count '\n'⟩
  | .grammar error =>
      .grammar ⟨error.fault, error.span.shift (byteLength text), error.line + text.count '\n'⟩

/-- Results of reading, when some text is put in front of the document. -/
def resultsBehind (text : List Char) :
    Except (List ParseError) (List Declaration) → Except (List ParseError) (List Declaration)
  | .ok declarations => .ok (declarations.map (·.behind text))
  | .error errors => .error (errors.map (·.behind text))

/-- The results of reading two parts of a document. All errors count, and declarations only if
there are no errors. -/
def bothResults :
    Except (List ParseError) (List Declaration) → Except (List ParseError) (List Declaration) →
      Except (List ParseError) (List Declaration)
  | .ok declarations, .ok more => .ok (declarations ++ more)
  | .ok _, .error errors => .error errors
  | .error errors, .ok _ => .error errors
  | .error errors, .error more => .error (errors ++ more)

/-! ## Finding units -/

/-- A search that has closed all units of some text goes on behind that text. -/
theorem Searched.append {first : List Char} {opening : Option Opening} {here : Cursor}
    {units : List Bracketed} (searched : Searched opening here first units)
    (whole : Whole first) (second : List Char) :
    bracketedFrom opening here (first ++ second) =
      (bracketedFrom none (here.beyond first) second).map (units ++ ·) := by
  induction searched with
  | done =>
      rw [List.nil_append, Cursor.beyond_nil]
      cases bracketedFrom none _ second <;> rfl
  | lone => exact absurd whole (by decide)
  | @escaped _ _ c rest _ _ ih =>
      rw [List.cons_append, List.cons_append, bracketedFrom_escaped,
        ih ((whole_escaped_iff c rest).1 whole), Cursor.beyond_cons, Cursor.beyond_cons]
  | opens _ ih =>
      rw [List.cons_append, bracketedFrom_open, ih ((whole_plain_iff (by decide) _).1 whole),
        Cursor.beyond_cons]
  | closes _ ih =>
      rw [List.cons_append, bracketedFrom_close, ih ((whole_plain_iff (by decide) _).1 whole),
        Cursor.beyond_cons]
      cases bracketedFrom none _ second <;> rfl
  | plain plain unopened unclosed _ ih =>
      rw [List.cons_append, bracketedFrom_plain _ _ _ plain unopened unclosed,
        ih ((whole_plain_iff plain _).1 whole), Cursor.beyond_cons]

/-- The unit that a search has opened, when some text is put in front of the document. -/
def Opening.behind (text : List Char) (opening : Opening) : Opening :=
  { opening with place := opening.place.beyond text }

theorem Opening.close_behind (text : List Char) (opening : Opening) (here : Cursor) :
    (opening.behind text).close (here.beyond text) = (opening.close here).behind text := by
  simp [Opening.behind, Opening.close, Bracketed.behind, Cursor.beyond, Span.shift,
    Nat.add_right_comm]

/-- The same steps are taken with text in front, only further on. -/
theorem Searched.behind (text : List Char) {rest : List Char} {opening : Option Opening}
    {here : Cursor} {units : List Bracketed} (searched : Searched opening here rest units) :
    Searched (opening.map (·.behind text)) (here.beyond text) rest
      (units.map (·.behind text)) := by
  have pushed (opening : Option Opening) (c : Char) :
      (opening.map (·.push c)).map (·.behind text) =
        (opening.map (·.behind text)).map (·.push c) := by
    cases opening <;> rfl
  induction searched with
  | done => exact .done
  | lone => exact .lone
  | escaped _ ih =>
      rw [pushed, pushed, Cursor.past_beyond, Cursor.past_beyond] at ih
      exact .escaped ih
  | opens _ ih =>
      rw [Cursor.past_beyond] at ih
      exact .opens ih
  | closes _ ih =>
      rw [Cursor.past_beyond] at ih
      rw [List.map_cons, ← Opening.close_behind]
      exact .closes ih
  | plain plain unopened unclosed _ ih =>
      rw [pushed, Cursor.past_beyond] at ih
      exact .plain plain unopened unclosed ih

theorem find_append {first second : String} {units more : List Bracketed}
    (foundFirst : Bracketed.find first = .ok units)
    (foundSecond : Bracketed.find second = .ok more) (whole : Whole first.toList) :
    Bracketed.find (first ++ second) = .ok (units ++ more.map (·.behind first.toList)) := by
  have moved := bracketedFrom_eq_ok_iff.2 (.behind first.toList (.of_bracketedFrom foundSecond))
  rw [Option.map_none] at moved
  rw [Bracketed.find, String.toList_append,
    (Searched.of_bracketedFrom foundFirst).append whole, moved]
  rfl

/-! ## Reading units -/

theorem Bracketed.error_behind (text : List Char) (unit : Bracketed) (fault : SyntaxFault)
    (place : Span) :
    (unit.behind text).error fault place = (unit.error fault place).behind text := by
  simp [Bracketed.error, Bracketed.behind, ParseError.behind, Bracketed.contentOffset, Span.shift,
    Nat.add_assoc, Nat.add_left_comm, Nat.add_comm]

namespace Declaration

/-- What a sentence says does not depend on where its unit stands. -/
theorem ofItems_behind (text : List Char) (kind : String) (items : List Item) (unit : Bracketed) :
    ofItems kind items (unit.behind text).line (unit.behind text).span =
      (ofItems kind items unit.line unit.span).behind text := by
  have one (declaration : Declaration) (item : Item) :
      (declaration.behind text).addKeyword item = (declaration.addKeyword item).behind text := by
    cases item <;> rfl
  have all : items.foldl addKeyword ((empty kind unit.line unit.span).behind text) =
      (items.foldl addKeyword (empty kind unit.line unit.span)).behind text :=
    List.foldl_hom _ one
  have start : empty kind (unit.behind text).line (unit.behind text).span =
      (empty kind unit.line unit.span).behind text := rfl
  rw [ofItems, start, all]
  rfl

theorem allUnrecognized_behind (text : List Char) (unit : Bracketed) :
    (unit.behind text).allUnrecognized = unit.allUnrecognized.map (·.behind text) := by
  rw [Bracketed.allUnrecognized, Bracketed.allUnrecognized, List.map_map]
  congr 1
  funext lexeme
  exact Bracketed.error_behind text unit _ _

theorem ofBracketed_behind (text : List Char) (unit : Bracketed) :
    ofBracketed (unit.behind text) =
      match ofBracketed unit with
      | .ok declaration => .ok (declaration.behind text)
      | .error errors => .error (errors.map (·.behind text)) := by
  have content : (unit.behind text).content = unit.content := rfl
  rw [ofBracketed_eq, ofBracketed_eq, allUnrecognized_behind, List.isEmpty_map, content]
  split
  · cases kindAndItems (placedTokens (lex unit.content)) with
    | ok sentence =>
        obtain ⟨kind, items⟩ := sentence
        simp only [ofItems_behind]
    | error misplaced =>
        obtain ⟨fault, place⟩ := misplaced
        simp only [Bracketed.error_behind, List.map_cons, List.map_nil]
  · rfl

theorem ofUnits_behind (text : List Char) (units : List Bracketed) :
    ofUnits (units.map (·.behind text)) = resultsBehind text (ofUnits units) := by
  induction units with
  | nil => rfl
  | cons unit units ih =>
      rw [List.map_cons, ofUnits, ofUnits, ofBracketed_behind, ih]
      cases ofBracketed unit <;> cases ofUnits units <;> simp [resultsBehind]

theorem ofUnits_append (units more : List Bracketed) :
    ofUnits (units ++ more) = bothResults (ofUnits units) (ofUnits more) := by
  induction units with
  | nil =>
      rw [List.nil_append]
      cases ofUnits more <;> rfl
  | cons unit units ih =>
      rw [List.cons_append, ofUnits, ofUnits, ih]
      cases ofBracketed unit <;> cases ofUnits units <;> cases ofUnits more <;>
        simp [bothResults]

/-- If the brackets of two texts are in order and the first text does not end in a backslash that
escapes nothing, then their concatenation is read as both of them, with the places of the second
moved behind the first. -/
theorem parse_append {first second : String}
    (foundFirst : ∃ units, Bracketed.find first = .ok units)
    (foundSecond : ∃ units, Bracketed.find second = .ok units) (whole : Whole first.toList) :
    parse (first ++ second) =
      bothResults (parse first) (resultsBehind first.toList (parse second)) := by
  obtain ⟨units, foundFirst⟩ := foundFirst
  obtain ⟨more, foundSecond⟩ := foundSecond
  simp only [parse, find_append foundFirst foundSecond whole, foundFirst, foundSecond]
  rw [ofUnits_append, ofUnits_behind]

theorem parse_append_two_errors :
    parse ("é\n[x a=]" ++ "[point A]\n[=]") =
      .error [.grammar ⟨.unexpectedEnd, ⟨8, 8⟩, 2⟩,
        .grammar ⟨.unexpected .equals false, ⟨20, 21⟩, 3⟩] := by
  have foundFirst : Bracketed.find "é\n[x a=]" = .ok [⟨"x a=", ⟨3, 9⟩, 2⟩] := by decide +kernel
  have foundSecond : Bracketed.find "[point A]\n[=]" =
      .ok [⟨"point A", ⟨0, 9⟩, 1⟩, ⟨"=", ⟨10, 13⟩, 2⟩] := by
    decide +kernel
  rw [parse_append ⟨_, foundFirst⟩ ⟨_, foundSecond⟩ (by decide +kernel)]
  decide +kernel

end Declaration

end FigureMarkup.Markup
