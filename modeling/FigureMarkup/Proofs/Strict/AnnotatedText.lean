import FigureMarkup.Proofs.AnnotatedText.Passages

/-!
# Strict annotation

The annotated text is put together from stretches that are cut from the document, from where the
last unit has left off to the next one. A unit that places a point also cuts out its line, in two
halves. A cut has no result if its ends are out of order or within a character. For documents that
can be read every cut has a result, also where the lines of units reach into each other, and the
annotated text is the usual one.
-/

namespace FigureMarkup.Strict

open Construction Markup Text AnnotatedText

/-- Widen a span to its whole line with the line end, if nothing else but blanks stands on that
line. What stands on the line before the span and behind it is cut from the document. -/
def ownLine (source : List Char) (span : Span) : Option Span := do
  let before ← takeBytes span.start source
  let after ← dropBytes span.stop source
  let lineStart := span.start - byteLength (before.reverse.takeWhile (· != '\n'))
  let lineEnd := span.stop + byteLength (after.takeWhile (· != '\n'))
  let lead ← slice source ⟨lineStart, span.start⟩
  let rest ← slice source ⟨span.stop, lineEnd⟩
  return if lead.all isBlank && rest.all isBlank then
      if lineEnd < byteLength source then ⟨lineStart, lineEnd + 1⟩ else ⟨lineStart - 1, lineEnd⟩
    else
      span

/-- The stretch of a document that gives way to what takes the place of a unit. -/
def vacated (source : List Char) (cursor : Nat) (declaration : Declaration) : Option Span :=
  if DeclarationKind.ofName? declaration.kind = some .loc then
    (ownLine source declaration.span).map fun span => ⟨max span.start cursor, span.stop⟩
  else
    some declaration.span

/-- The parts of the annotated text after a place. -/
def piecesFrom (source : List Char) (cursor : Nat) :
    List Declaration → List (Option String) → Option (List Piece)
  | [], _ => (dropBytes cursor source).map fun rest => [.prose rest]
  | declaration :: declarations, targets =>
      let span := declaration.span
      if span.start < cursor || byteLength source < span.stop then
        piecesFrom source cursor declarations targets.tail
      else do
        let span ← vacated source cursor declaration
        let prose ← slice source ⟨cursor, span.start⟩
        let pieces ← piecesFrom source span.stop declarations targets.tail
        return .prose prose :: ((replacement declaration targets.head?.join).toList ++ pieces)

def annotate (source : String) (declarations : List Declaration)
    (targets : List (Option String)) : Option String :=
  (piecesFrom source.toList 0 declarations targets).map fun pieces =>
    "<div id='step_0'>" ++ render 0 pieces ++ "</div>"

/-- Both halves of the line of a unit can be cut from the document. -/
theorem ownLine_eq (lead unit later : List Char) :
    ownLine (lead ++ unit ++ later) ⟨byteLength lead, byteLength (lead ++ unit)⟩ =
      ownLine? (lead ++ unit ++ later) ⟨byteLength lead, byteLength (lead ++ unit)⟩ := by
  have before : takeBytes (byteLength lead) (lead ++ unit ++ later) = some lead := by
    rw [List.append_assoc, takeBytes_append]
  have after : dropBytes (byteLength (lead ++ unit)) (lead ++ unit ++ later) = some later :=
    dropBytes_append ..
  obtain ⟨front, leadSame, -⟩ := line_start lead
  obtain ⟨rest, laterSame, -⟩ := line_rest later
  unfold lineBefore at leadSame
  unfold lineAfter at laterSame
  have leadCut : slice (lead ++ unit ++ later)
      ⟨byteLength lead - byteLength (lead.reverse.takeWhile (· != '\n')), byteLength lead⟩ =
        some (lead.reverse.takeWhile (· != '\n')).reverse := by
    generalize lead.reverse.takeWhile (· != '\n') = back at leadSame ⊢
    subst leadSame
    have start : byteLength (front ++ back.reverse) - byteLength back = byteLength front := by
      rw [byteLength_append, byteLength_reverse, Nat.add_sub_cancel]
    rw [start, List.append_assoc, slice_append]
  have restCut : slice (lead ++ unit ++ later) ⟨byteLength (lead ++ unit),
      byteLength (lead ++ unit) + byteLength (later.takeWhile (· != '\n'))⟩ =
        some (later.takeWhile (· != '\n')) := by
    generalize later.takeWhile (· != '\n') = taken at laterSame ⊢
    subst laterSame
    rw [← byteLength_append, ← List.append_assoc, slice_append]
  simp only [ownLine, ownLine?, before, after, leadCut, restCut, List.all_reverse,
    Option.bind_eq_bind, Option.bind_some]
  split
  · split <;> rfl
  · rfl

/-- The next unit of a document has its own line. -/
theorem vacated_eq {declaration : Declaration} {before remaining : List Char} {spans : List Span}
    (units : Units (byteLength before) remaining (declaration.span :: spans)) (cursor : Nat) :
    vacated (before ++ remaining) cursor declaration =
      vacated? (before ++ remaining) cursor declaration := by
  obtain ⟨prose, unit, later, rfl, here, -⟩ := units.exists_next
  have parts : before ++ (prose ++ (unit ++ later)) = before ++ prose ++ unit ++ later := by
    simp
  rw [vacated, vacated?, parts, here, ownLine_eq]

theorem piecesFrom_eq {declarations : List Declaration} {before remaining : List Char}
    (units : Units (byteLength before) remaining (declarations.map (·.span)))
    (targets : List (Option String)) :
    piecesFrom (before ++ remaining) (byteLength before) declarations targets =
      piecesFrom? (before ++ remaining) (byteLength before) declarations targets := by
  induction declarations generalizing before remaining targets with
  | nil => rfl
  | cons declaration declarations ih =>
      have same := vacated_eq units (byteLength before)
      obtain ⟨kept, vacant, left, rfl, inOrder, inside, gives, others⟩ := exists_vacated units
      have parts : before ++ (kept ++ vacant ++ left) = before ++ kept ++ vacant ++ left := by
        simp
      have later := ih others targets.tail
      rw [parts] at inside
      have stays : ¬ (declaration.span.start < byteLength before ∨
          byteLength (before ++ kept ++ vacant ++ left) < declaration.span.stop) := by
        omega
      rw [piecesFrom, piecesFrom?, same, gives, parts]
      simp only [Bool.or_eq_true, decide_eq_true_eq, if_neg stays, Option.bind_eq_bind,
        Option.bind_some, later]

/-- The annotated text of a document that can be read is put together from its stretches, and it is
the usual one. -/
theorem annotate_eq {document : String} {declarations : List Declaration}
    (read : Declaration.parse document = .ok declarations) (targets : List (Option String)) :
    annotate document declarations targets = annotate? document declarations targets ∧
      (annotate? document declarations targets).isSome = true := by
  have units : Units (byteLength []) document.toList (declarations.map (·.span)) :=
    Declaration.units_of_parse read
  obtain ⟨passages, rest, -, written⟩ := annotate?_eq read targets
  exact ⟨congrArg (Option.map _) (piecesFrom_eq units targets), by rw [written]; rfl⟩

end FigureMarkup.Strict
