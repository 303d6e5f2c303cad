import FigureMarkup.Proofs.AnnotatedText.Lines
import FigureMarkup.Proofs.Markup.Units

/-!
# Passages of annotated text

The annotated text of a document that can be read consists of passages, one for each declaration.
Each is some prose of the document and what takes the place of the unit behind it. No declaration
is left out, as units do not overlap, and what a unit takes of its line is blank.
-/

namespace FigureMarkup.AnnotatedText

open Construction Markup Text

/-! ## Writing -/

section Render

variable (number : Nat) (pieces : List Piece)

theorem render_nil : render number [] = "" := rfl

theorem render_prose (text : List Char) :
    render number (.prose text :: pieces) =
      String.ofList (unescapeBrackets text) ++ render number pieces :=
  rfl

theorem render_step :
    render number (.step :: pieces) =
      "</div><div id='step_" ++ toString (number + 1) ++ "'>" ++ render (number + 1) pieces :=
  rfl

theorem render_reference (target label : String) :
    render number (.reference target label :: pieces) =
      "<span name='text_" ++ escapeXml target ++ "' class='GeoElement'>" ++ escapeXml label ++
        "</span>" ++ render number pieces :=
  rfl

end Render

theorem render_append (number : Nat) (first second : List Piece) :
    render number (first ++ second) =
      render number first ++ render (number + first.count .step) second := by
  induction first generalizing number with
  | nil => rw [List.nil_append, render_nil, String.empty_append, List.count_nil, Nat.add_zero]
  | cons piece first ih =>
      rw [List.cons_append]
      cases piece with
      | prose text =>
          rw [render_prose, render_prose, ih, ← String.append_assoc,
            List.count_cons_of_ne (by simp)]
      | step =>
          rw [render_step, render_step, ih, ← String.append_assoc, List.count_cons_self,
            Nat.add_right_comm, ← Nat.add_assoc]
      | reference target label =>
          rw [render_reference, render_reference, ih, ← String.append_assoc,
            List.count_cons_of_ne (by simp)]

/-! ## Passages -/

/-- Prose of a document, the stretch behind it that gives way, and what takes its place. -/
structure Passage where
  prose : List Char
  vacated : List Char
  output : String

def Passage.text (passage : Passage) : String :=
  String.ofList (unescapeBrackets passage.prose) ++ passage.output

/-- A document from some place on is passages and prose at the end. The passages have the stretches
that give way to declarations, and what takes their place if the text before has some number of
section breaks. -/
inductive Passages (source : List Char) : Nat → Nat → List Char → List Declaration →
    List (Option String) → List Passage → List Char → Prop
  | rest (number offset : Nat) (text : List Char) (targets : List (Option String)) :
      Passages source number offset text [] targets [] text
  | passage {number offset : Nat} {prose vacated later : List Char} {declaration : Declaration}
      {declarations : List Declaration} {targets : List (Option String)} {passages : List Passage}
      {rest : List Char}
      (gives : vacated? source offset declaration =
        some ⟨offset + byteLength prose, offset + byteLength (prose ++ vacated)⟩)
      (others : Passages source
        (number + (replacement declaration targets.head?.join).toList.count .step)
        (offset + byteLength (prose ++ vacated)) later declarations targets.tail passages rest) :
      Passages source number offset (prose ++ vacated ++ later) (declaration :: declarations)
        targets (⟨prose, vacated, render number (replacement declaration targets.head?.join).toList⟩
          :: passages) rest

/-- The stretch that gives way to a unit reaches back into the prose before it at most, and what it
takes behind the unit is prose. -/
theorem vacated?_eq (before prose unit later : List Char) {declaration : Declaration}
    (place : declaration.span =
      ⟨byteLength (before ++ prose), byteLength (before ++ prose ++ unit)⟩) :
    ∃ kept back taken rest, prose = kept ++ back ∧ later = taken ++ rest ∧ '[' ∉ taken ∧
      vacated? (before ++ prose ++ unit ++ later) (byteLength before) declaration =
        some ⟨byteLength (before ++ kept), byteLength (before ++ prose ++ unit ++ taken)⟩ := by
  unfold vacated?
  rw [place]
  split
  · obtain ⟨front, back, taken, rest, same, rfl, blank, widened⟩ :=
      ownLine?_eq (before ++ prose) unit later
    have closed : '[' ∉ taken := by
      intro member
      have wrong := blank '[' (List.mem_append_right back member)
      exact absurd wrong (by decide)
    rw [widened, Option.map_some]
    rcases List.append_eq_append_iff.1 same with ⟨kept, rfl, rfl⟩ | ⟨more, rfl, rfl⟩
    · refine ⟨kept, back, taken, rest, rfl, rfl, closed, ?_⟩
      rw [Nat.max_eq_left (by simp)]
    · refine ⟨[], prose, taken, rest, rfl, rfl, closed, ?_⟩
      rw [Nat.max_eq_right (by simp), List.append_nil]
  · exact ⟨prose, [], [], later, by simp⟩

/-- The stretch that gives way to the next unit, and what is left behind it. -/
theorem exists_vacated {declaration : Declaration} {before remaining : List Char}
    {spans : List Span} (units : Units (byteLength before) remaining (declaration.span :: spans)) :
    ∃ kept vacated left, remaining = kept ++ vacated ++ left ∧
      byteLength before ≤ declaration.span.start ∧
      declaration.span.stop ≤ byteLength (before ++ remaining) ∧
      vacated? (before ++ remaining) (byteLength before) declaration =
        some ⟨byteLength (before ++ kept), byteLength (before ++ kept ++ vacated)⟩ ∧
      Units (byteLength (before ++ kept ++ vacated)) left spans := by
  obtain ⟨prose, unit, later, rfl, here, others⟩ := units.exists_next
  obtain ⟨kept, back, taken, left, rfl, rfl, closed, gives⟩ :=
    vacated?_eq before prose unit later here
  have whole : before ++ (kept ++ back) ++ unit ++ (taken ++ left) =
      before ++ (kept ++ back ++ (unit ++ (taken ++ left))) := by
    simp
  have reached : byteLength (before ++ (kept ++ back) ++ unit ++ taken) =
      byteLength (before ++ kept ++ (back ++ unit ++ taken)) := by
    simp
  rw [whole, reached] at gives
  -- What is taken behind the unit opens no other one, so the units after it keep their places.
  refine ⟨kept, back ++ unit ++ taken, left, by simp, ?_, ?_, gives, ?_⟩
  · rw [here, byteLength_append before]
    exact Nat.le_add_right _ _
  · rw [here]
    simp only [byteLength_append]
    omega
  · rw [← reached, byteLength_append _ taken]
    exact others.drop closed

theorem piecesFrom?_cons {before prose vacated later : List Char} {declaration : Declaration}
    (inOrder : byteLength before ≤ declaration.span.start)
    (inside : declaration.span.stop ≤ byteLength (before ++ prose ++ vacated ++ later))
    (gives : vacated? (before ++ prose ++ vacated ++ later) (byteLength before) declaration =
      some ⟨byteLength (before ++ prose), byteLength (before ++ prose ++ vacated)⟩)
    (declarations : List Declaration) (targets : List (Option String)) :
    piecesFrom? (before ++ prose ++ vacated ++ later) (byteLength before)
        (declaration :: declarations) targets =
      (piecesFrom? (before ++ prose ++ vacated ++ later)
        (byteLength (before ++ prose ++ vacated)) declarations targets.tail).map fun pieces =>
          .prose prose :: ((replacement declaration targets.head?.join).toList ++ pieces) := by
  have cut : slice (before ++ prose ++ vacated ++ later)
      ⟨byteLength before, byteLength (before ++ prose)⟩ = some prose := by
    rw [List.append_assoc _ vacated, slice_append]
  have kept : ¬ (declaration.span.start < byteLength before ∨
      byteLength (before ++ prose ++ vacated ++ later) < declaration.span.stop) := by
    omega
  rw [piecesFrom?]
  simp only [Bool.or_eq_true, decide_eq_true_eq, if_neg kept, gives, cut, Option.bind_eq_bind,
    Option.bind_some, Option.pure_def]
  cases piecesFrom? (before ++ prose ++ vacated ++ later)
    (byteLength (before ++ prose ++ vacated)) declarations targets.tail <;> rfl

/-- No declaration of a document is left out of its annotated text. -/
theorem exists_passages {declarations : List Declaration} {before remaining : List Char}
    (units : Units (byteLength before) remaining (declarations.map (·.span))) (number : Nat)
    (targets : List (Option String)) :
    ∃ passages rest pieces,
      Passages (before ++ remaining) number (byteLength before) remaining declarations targets
        passages rest ∧
      piecesFrom? (before ++ remaining) (byteLength before) declarations targets = some pieces ∧
      render number pieces = String.join (passages.map Passage.text) ++
        String.ofList (unescapeBrackets rest) := by
  induction declarations generalizing before remaining number targets with
  | nil =>
      refine ⟨[], remaining, [.prose remaining], .rest .., ?_, ?_⟩
      · rw [piecesFrom?, dropBytes_append, Option.map_some]
      · rw [render_prose, render_nil, String.append_empty, List.map_nil]
        exact (String.empty_append ..).symm
  | cons declaration declarations ih =>
      obtain ⟨kept, vacated, left, rfl, inOrder, inside, gives, others⟩ := exists_vacated units
      rw [← List.append_assoc, ← List.append_assoc] at inside gives ⊢
      let shown := (replacement declaration targets.head?.join).toList
      obtain ⟨passages, rest, pieces, divided, found, written⟩ :=
        ih others (number + shown.count .step) targets.tail
      have reached : byteLength (before ++ kept ++ vacated) =
          byteLength before + byteLength (kept ++ vacated) := by
        rw [List.append_assoc, byteLength_append before]
      refine ⟨⟨kept, vacated, render number shown⟩ :: passages, rest,
        .prose kept :: (shown ++ pieces), .passage ?_ ?_, ?_, ?_⟩
      · rw [gives, reached, byteLength_append before]
      · rwa [reached] at divided
      · rw [piecesFrom?_cons inOrder inside gives, found]
        rfl
      · rw [render_prose, render_append, written, List.map_cons, String.join_cons, Passage.text]
        simp only [String.append_assoc]

/-- The annotated text of a document that can be read is made of its passages. -/
theorem annotate?_eq {document : String} {declarations : List Declaration}
    (read : Declaration.parse document = .ok declarations) (targets : List (Option String)) :
    ∃ passages rest,
      Passages document.toList 0 0 document.toList declarations targets passages rest ∧
      annotate? document declarations targets =
        some ("<div id='step_0'>" ++ (String.join (passages.map Passage.text) ++
          String.ofList (unescapeBrackets rest)) ++ "</div>") := by
  have units : Units (byteLength []) document.toList (declarations.map (·.span)) :=
    Declaration.units_of_parse read
  obtain ⟨passages, rest, pieces, divided, found, written⟩ := exists_passages units 0 targets
  refine ⟨passages, rest, divided, ?_⟩
  rw [← written]
  exact congrArg (Option.map _) found

namespace Passages

variable {source remaining rest : List Char} {number offset : Nat}
  {declarations : List Declaration} {targets : List (Option String)} {passages : List Passage}

theorem length_eq
    (divided : Passages source number offset remaining declarations targets passages rest) :
    passages.length = declarations.length := by
  induction divided with
  | rest => rfl
  | passage _ _ ih => rw [List.length_cons, List.length_cons, ih]

/-- Each declaration has its own passage. -/
theorem output
    (divided : Passages source number offset remaining declarations targets passages rest)
    {i : Nat} {declaration : Declaration} (stored : declarations[i]? = some declaration) :
    ∃ passage before, passages[i]? = some passage ∧
      passage.output = render before (replacement declaration targets[i]?.join).toList := by
  induction divided generalizing i with
  | rest => simp at stored
  | @passage number _ _ _ _ first _ targets _ _ _ _ ih =>
      cases i with
      | zero =>
          obtain rfl : first = declaration := by simpa using stored
          refine ⟨_, number, rfl, ?_⟩
          rw [List.head?_eq_getElem?]
      | succ i =>
          rw [List.getElem?_cons_succ] at stored
          obtain ⟨passage, before, known, same⟩ := ih stored
          refine ⟨passage, before, by simpa using known, ?_⟩
          rw [same, List.getElem?_tail]

end Passages

end FigureMarkup.AnnotatedText
