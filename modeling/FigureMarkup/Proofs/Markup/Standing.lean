import FigureMarkup.Proofs.Markup.Units

/-!
# Brackets and units in their documents

Every live bracket stands in the document behind the text before it, and every unit from its opening
bracket to its closing one. Units stand one after the other. What is read from a unit has its place
and the line on which it opens.
-/

namespace FigureMarkup.Markup

open Text

/-! ## Brackets in a document -/

/-- A bracket stands in a document, and nothing escapes it. -/
def Mark.StandsIn (document : List Char) (mark : Mark) : Prop :=
  Whole mark.before ∧ (mark.bracket = '[' ∨ mark.bracket = ']') ∧
    ∃ after, document = mark.before ++ mark.bracket :: after

/-- A bracket stands before another one in a document. -/
def Mark.Precedes (first second : Mark) : Prop :=
  ∃ between, second.before = first.before ++ first.bracket :: between

theorem before_of_mem_liveFrom {mark : Mark} {before rest : List Char}
    (live : mark ∈ liveFrom before rest) :
    Whole mark.before ∧ ∃ between after, mark.before = before ++ between ∧
      rest = between ++ mark.bracket :: after := by
  induction rest generalizing before with
  | nil => cases live
  | cons c rest ih =>
      have later (live : mark ∈ liveFrom (before ++ [c]) rest) :
          Whole mark.before ∧ ∃ between after, mark.before = before ++ between ∧
            c :: rest = between ++ mark.bracket :: after := by
        obtain ⟨whole, between, after, same, parts⟩ := ih live
        exact ⟨whole, c :: between, after, by rw [same]; simp, by rw [parts]; rfl⟩
      rw [liveFrom] at live
      split at live
      case isTrue found =>
        rcases List.mem_cons.1 live with rfl | live
        · exact ⟨found.2, [], rest, by simp, rfl⟩
        · exact later live
      case isFalse => exact later live

theorem standsIn_of_mem_liveBrackets {document : String} {mark : Mark}
    (live : mark ∈ liveBrackets document) : mark.StandsIn document.toList := by
  obtain ⟨whole, between, after, same, parts⟩ := before_of_mem_liveFrom live
  refine ⟨whole, bracket_of_mem_liveFrom live, after, ?_⟩
  rw [parts, same, List.nil_append]

theorem pairwise_liveFrom (before rest : List Char) :
    (liveFrom before rest).Pairwise Mark.Precedes := by
  induction rest generalizing before with
  | nil => exact .nil
  | cons c rest ih =>
      rw [liveFrom]
      split
      · refine .cons (fun mark live => ?_) (ih _)
        obtain ⟨-, between, -, same, -⟩ := before_of_mem_liveFrom live
        exact ⟨between, by rw [same]; simp⟩
      · exact ih _

/-! ## Units in a document -/

/-- A unit stands in a document: its span reaches from one bracket to the other, and its line is the
one on which it opens. -/
def Bracketed.StandsIn (document : List Char) (unit : Bracketed) : Prop :=
  ∃ before after, document = before ++ '[' :: unit.content.toList ++ ']' :: after ∧
    Whole before ∧ Whole (before ++ '[' :: unit.content.toList) ∧
    unit.span = ⟨byteLength before, byteLength (before ++ '[' :: unit.content.toList) + 1⟩ ∧
    unit.line = 1 + before.count '\n'

theorem Balanced.of_cons {opening closing : Mark} {later : List Mark}
    (balanced : Balanced (opening :: closing :: later)) :
    opening.bracket = '[' ∧ closing.bracket = ']' ∧ Balanced later := by
  obtain ⟨count, brackets⟩ := balanced
  cases count with
  | zero => cases brackets
  | succ count =>
      rw [alternation, List.replicate_succ, List.flatten_cons] at brackets
      obtain ⟨opens, brackets⟩ := List.cons.inj brackets
      obtain ⟨closes, brackets⟩ := List.cons.inj brackets
      exact ⟨opens, closes, count, brackets⟩

theorem standsIn_unit {document : List Char} {opening closing : Mark}
    (opens : opening.bracket = '[') (closes : closing.bracket = ']')
    (first : opening.StandsIn document) (second : closing.StandsIn document)
    (inOrder : opening.Precedes closing) : (opening.unit closing).StandsIn document := by
  obtain ⟨between, same⟩ := inOrder
  obtain ⟨whole, -, -⟩ := first
  obtain ⟨wholeContent, -, after, parts⟩ := second
  rw [opens] at same
  have content : (opening.unit closing).content.toList = between := by
    simp [Mark.unit, same]
  rw [same] at parts wholeContent
  refine ⟨opening.before, after, ?_, whole, content ▸ wholeContent, ?_, ?_⟩
  · rw [content, parts, closes]
  · rw [content]
    simp [Mark.unit, Mark.place, Cursor.beyond, Cursor.start, same]
  · simp [Mark.unit, Mark.place, Cursor.beyond, Cursor.start]

theorem exists_of_mem_unitsOf {marks : List Mark} {unit : Bracketed}
    (member : unit ∈ unitsOf marks) :
    ∃ opening ∈ marks, ∃ closing, unit = opening.unit closing := by
  fun_induction unitsOf marks with
  | case1 opening closing later ih =>
      rcases List.mem_cons.1 member with rfl | among
      · exact ⟨opening, by simp, closing, rfl⟩
      · obtain ⟨first, earlier, second, same⟩ := ih among
        exact ⟨first, by simp [earlier], second, same⟩
  | case2 => cases member

/-- Units stand in their document one after the other. -/
theorem standsIn_unitsOf {document : List Char} {marks : List Mark} (balanced : Balanced marks)
    (stand : ∀ mark ∈ marks, mark.StandsIn document) (inOrder : marks.Pairwise Mark.Precedes) :
    (∀ unit ∈ unitsOf marks, unit.StandsIn document) ∧
      (unitsOf marks).Pairwise fun first second => first.span.stop ≤ second.span.start := by
  fun_induction unitsOf marks with
  | case1 opening closing later ih =>
      obtain ⟨opens, closes, balanced⟩ := balanced.of_cons
      obtain ⟨behindOpening, inOrder⟩ := List.pairwise_cons.1 inOrder
      obtain ⟨behindClosing, inOrder⟩ := List.pairwise_cons.1 inOrder
      have standLater (mark : Mark) (member : mark ∈ later) := stand mark (by simp [member])
      obtain ⟨units, apart⟩ := ih balanced standLater inOrder
      constructor
      · intro unit member
        rcases List.mem_cons.1 member with rfl | later
        · exact standsIn_unit opens closes (stand opening (by simp)) (stand closing (by simp))
            (behindOpening closing (by simp))
        · exact units unit later
      · refine .cons (fun unit member => ?_) apart
        obtain ⟨next, among, last, rfl⟩ := exists_of_mem_unitsOf member
        obtain ⟨between, same⟩ := behindClosing next among
        have narrow : ']'.utf8Size = 1 := by decide
        simp only [Mark.unit, Mark.place, Cursor.beyond, same, byteLength_append,
          byteLength_cons, closes, narrow]
        omega
  | case2 => exact ⟨List.forall_mem_nil _, .nil⟩

theorem standsIn_of_find {document : String} {units : List Bracketed}
    (found : Bracketed.find document = .ok units) :
    (∀ unit ∈ units, unit.StandsIn document.toList) ∧
      units.Pairwise fun first second => first.span.stop ≤ second.span.start := by
  obtain ⟨balanced, rfl⟩ := ((find_outcome document).1 units).1 found
  exact standsIn_unitsOf balanced (fun mark => standsIn_of_mem_liveBrackets)
    (pairwise_liveFrom [] document.toList)

/-! ## Declarations in their units -/

namespace Declaration

theorem line_ofBracketed {unit : Bracketed} {declaration : Declaration}
    (read : ofBracketed unit = .ok declaration) : declaration.line = unit.line := by
  rw [ofBracketed_eq] at read
  split at read
  · split at read <;> cases read
    rw [ofItems, addKeywords_eq]
    rfl
  · cases read

theorem exists_of_mem_ofUnits {units : List Bracketed} {declarations : List Declaration}
    (read : ofUnits units = .ok declarations) {declaration : Declaration}
    (member : declaration ∈ declarations) :
    ∃ unit ∈ units, ofBracketed unit = .ok declaration := by
  induction units generalizing declarations with
  | nil =>
      cases read
      cases member
  | cons unit units ih =>
      obtain ⟨first, later, here, readLater, rfl⟩ := ofUnits_cons_eq_ok read
      rcases List.mem_cons.1 member with rfl | behind
      · exact ⟨unit, List.mem_cons_self, here⟩
      · obtain ⟨other, among, readOther⟩ := ih readLater behind
        exact ⟨other, List.mem_cons_of_mem unit among, readOther⟩

/-- A declaration has the span and the line of its unit. -/
theorem unit_of_mem_parse {document : String} {declarations : List Declaration}
    (read : parse document = .ok declarations) {declaration : Declaration}
    (member : declaration ∈ declarations) :
    ∃ units, Bracketed.find document = .ok units ∧ ∃ unit ∈ units,
      unit.StandsIn document.toList ∧ declaration.span = unit.span ∧
      declaration.line = unit.line := by
  unfold parse at read
  cases found : Bracketed.find document with
  | error error => simp [found] at read
  | ok units =>
      simp only [found] at read
      obtain ⟨unit, among, here⟩ := exists_of_mem_ofUnits read member
      exact ⟨units, rfl, unit, among, (standsIn_of_find found).1 unit among,
        span_ofBracketed here, line_ofBracketed here⟩

end Declaration

end FigureMarkup.Markup
