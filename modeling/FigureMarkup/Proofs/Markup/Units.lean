import FigureMarkup.Proofs.Markup.Prose

/-!
# Units and prose

A document that can be read is prose and units by turns. Its declarations have the places of the
units, in order, so that none of them overlaps another one and each ends within the document.
-/

namespace FigureMarkup.Markup

open Text

/-- The rest of a document behind some bytes is prose and units by turns, and the units have the
given places. -/
inductive Units : Nat → List Char → List Span → Prop
  | prose (offset : Nat) (text : List Char) : Units offset text []
  | unit {offset start stop : Nat} (prose content : List Char) {later : List Char}
      {spans : List Span} (starts : start = offset + byteLength prose)
      (stops : stop = start + byteLength ('[' :: (content ++ [']'])))
      (others : Units stop later spans) :
      Units offset (prose ++ ('[' :: (content ++ [']']) ++ later)) (⟨start, stop⟩ :: spans)

namespace Units

/-- The next unit stands behind the prose in front of it. -/
theorem exists_next {before remaining : List Char} {place : Span} {spans : List Span}
    (units : Units (byteLength before) remaining (place :: spans)) :
    ∃ prose unit later, remaining = prose ++ (unit ++ later) ∧
      place = ⟨byteLength (before ++ prose), byteLength (before ++ prose ++ unit)⟩ ∧
      Units (byteLength (before ++ prose ++ unit)) later spans := by
  cases units with
  | @unit _ start stop prose content later _ starts stops others =>
      have opens : start = byteLength (before ++ prose) := by
        rw [starts, byteLength_append]
      have closes : stop = byteLength (before ++ prose ++ ('[' :: (content ++ [']']))) := by
        rw [stops, opens, byteLength_append _ ('[' :: _)]
      subst opens closes
      exact ⟨prose, _, later, rfl, rfl, others⟩

/-- Text without an opening bracket is all prose. -/
theorem drop {before rest : List Char} (closed : '[' ∉ before) {offset : Nat} {spans : List Span}
    (units : Units offset (before ++ rest) spans) :
    Units (offset + byteLength before) rest spans := by
  generalize whole : before ++ rest = text at units
  cases units with
  | prose => exact .prose _ rest
  | unit prose content starts stops others =>
      rcases List.append_eq_append_iff.1 whole with ⟨left, same, rfl⟩ | ⟨more, rfl, same⟩
      · subst same
        refine .unit left content ?_ stops others
        rw [starts, byteLength_append, Nat.add_assoc]
      · cases more with
        | nil =>
            obtain rfl := same
            refine .unit [] content ?_ stops others
            simpa using starts
        | cons c more =>
            obtain rfl : '[' = c := (List.cons.inj same).1
            exact absurd (by simp) closed

end Units

/-! ## Reading -/

/-- A search that finds units finds all of them, and leaves nothing but prose between them. -/
theorem units_bracketedFrom {rest : List Char} {here : Cursor} {units : List Bracketed}
    (found : bracketedFrom none here rest = .ok units) :
    Units here.offset rest (units.map (·.span)) := by
  induction units generalizing rest here with
  | nil =>
      cases turn_bracketedFrom found with
      | prose => exact .prose _ _
  | cons unit others ih =>
      cases turn_bracketedFrom found with
      | unit shown content later place goesOn =>
          rw [List.map_cons, place, List.append_assoc]
          refine .unit (escape isBracket shown) content rfl ?_ (ih goesOn)
          rw [Cursor.beyond_append]
          rfl

namespace Declaration

theorem span_ofItems (kind : String) (items : List Item) (line : Nat) (span : Span) :
    (ofItems kind items line span).span = span := by
  have kept (declaration : Declaration) (items : List Item) :
      (items.foldl addKeyword declaration).span = declaration.span := by
    induction items generalizing declaration with
    | nil => rfl
    | cons item items ih =>
        rw [List.foldl_cons, ih]
        cases item <;> rfl
  exact kept _ items

theorem span_ofBracketed {unit : Bracketed} {declaration : Declaration}
    (read : ofBracketed unit = .ok declaration) : declaration.span = unit.span := by
  rw [ofBracketed_eq] at read
  split at read
  · split at read <;> cases read
    exact span_ofItems ..
  · cases read

theorem ofUnits_cons_eq_ok {unit : Bracketed} {units : List Bracketed}
    {declarations : List Declaration} (read : ofUnits (unit :: units) = .ok declarations) :
    ∃ first later, ofBracketed unit = .ok first ∧ ofUnits units = .ok later ∧
      declarations = first :: later := by
  rw [ofUnits] at read
  cases here : ofBracketed unit with
  | error errors => cases behind : ofUnits units <;> simp [here, behind] at read
  | ok first =>
      cases behind : ofUnits units with
      | error errors => simp [here, behind] at read
      | ok later =>
          simp only [here, behind, Except.ok.injEq] at read
          exact ⟨first, later, rfl, rfl, read.symm⟩

theorem spans_ofUnits {units : List Bracketed} {declarations : List Declaration}
    (read : ofUnits units = .ok declarations) :
    declarations.map (·.span) = units.map (·.span) := by
  induction units generalizing declarations with
  | nil =>
      cases read
      rfl
  | cons unit units ih =>
      obtain ⟨declaration, declarations, here, later, rfl⟩ := ofUnits_cons_eq_ok read
      rw [List.map_cons, List.map_cons, ih later, span_ofBracketed here]

/-- The declarations of a document that can be read have the places of its units. -/
theorem units_of_parse {document : String} {declarations : List Declaration}
    (read : parse document = .ok declarations) :
    Units 0 document.toList (declarations.map (·.span)) := by
  unfold parse at read
  cases found : Bracketed.find document with
  | error error => simp [found] at read
  | ok units =>
      simp only [found] at read
      rw [spans_ofUnits read]
      exact units_bracketedFrom found

end Declaration

end FigureMarkup.Markup
