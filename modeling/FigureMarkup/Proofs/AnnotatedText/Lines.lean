import FigureMarkup.AnnotatedText
import FigureMarkup.Proofs.Text.Places
import Mathlib.Data.List.TakeWhile

/-!
# Lines of units

A unit that places a point takes its line along if nothing else stands there. What it takes is
blank, in front of it and behind it.
-/

namespace FigureMarkup.AnnotatedText

open Markup Text

/-! ## Lines of text -/

/-- What stands before some place on its line. -/
def lineBefore (text : List Char) : List Char := (text.reverse.takeWhile (· != '\n')).reverse

/-- What stands behind some place on its line. -/
def lineAfter (text : List Char) : List Char := text.takeWhile (· != '\n')

/-- Between two texts, nothing but blanks stands on the lines. -/
def Alone (before after : List Char) : Prop :=
  (∀ c ∈ lineBefore before, isBlank c = true) ∧ ∀ c ∈ lineAfter after, isBlank c = true

/-- A line starts behind some text. -/
def LineStart (text : List Char) : Prop := text = [] ∨ ∃ front, text = front ++ ['\n']

/-- Blanks that end no line. -/
def Inline (text : List Char) : Prop := ∀ c ∈ text, isBlank c = true ∧ c ≠ '\n'

theorem Inline.blank {text : List Char} (inline : Inline text) :
    ∀ c ∈ text, isBlank c = true := fun c member => (inline c member).1

/-- The rest of a line ends with the text or right before a line end. -/
theorem line_rest (text : List Char) :
    ∃ rest, text = lineAfter text ++ rest ∧ (rest = [] ∨ ∃ more, rest = '\n' :: more) := by
  induction text with
  | nil => exact ⟨[], rfl, .inl rfl⟩
  | cons c text ih =>
      by_cases newline : c = '\n'
      · exact ⟨c :: text, by simp [lineAfter, newline], .inr ⟨text, by rw [newline]⟩⟩
      · obtain ⟨rest, same, ends⟩ := ih
        refine ⟨rest, ?_, ends⟩
        simpa [lineAfter, newline] using same

/-- The start of a line is that of the text or stands right behind a line end. -/
theorem line_start (text : List Char) :
    ∃ front, text = front ++ lineBefore text ∧ LineStart front := by
  obtain ⟨rest, same, ends⟩ := line_rest text.reverse
  refine ⟨rest.reverse, ?_, ?_⟩
  · rw [lineBefore, ← lineAfter, ← List.reverse_append, ← same, List.reverse_reverse]
  · rcases ends with rfl | ⟨more, rfl⟩
    · exact .inl rfl
    · exact .inr ⟨more.reverse, List.reverse_cons ..⟩

theorem takeWhile_line {text : List Char} (noEnd : ∀ c ∈ text, c ≠ '\n') (more : List Char) :
    (text ++ '\n' :: more).takeWhile (· != '\n') = text := by
  rw [List.takeWhile_append_of_pos (by simpa using noEnd)]
  simp

theorem takeWhile_lastLine {text : List Char} (noEnd : ∀ c ∈ text, c ≠ '\n') :
    text.takeWhile (· != '\n') = text := by
  simpa using noEnd

theorem lineBefore_eq {front : List Char} (start : LineStart front) {lead : List Char}
    (noEnd : ∀ c ∈ lead, c ≠ '\n') : lineBefore (front ++ lead) = lead := by
  have noEndReverse : ∀ c ∈ lead.reverse, c ≠ '\n' := by simpa using noEnd
  rcases start with rfl | ⟨earlier, rfl⟩
  · rw [lineBefore, List.nil_append, takeWhile_lastLine noEndReverse, List.reverse_reverse]
  · have turned : (earlier ++ ['\n'] ++ lead).reverse =
        lead.reverse ++ '\n' :: earlier.reverse := by
      simp
    rw [lineBefore, turned, takeWhile_line noEndReverse, List.reverse_reverse]

theorem noEnd_of_mem_takeWhile {text : List Char} {c : Char}
    (member : c ∈ text.takeWhile (· != '\n')) : c ≠ '\n' := by
  simpa using List.mem_takeWhile_imp member

theorem Alone.inline {before after : List Char} (alone : Alone before after) :
    Inline (lineBefore before) ∧ Inline (lineAfter after) := by
  refine ⟨fun c member => ⟨alone.1 c member, ?_⟩, fun c member => ⟨alone.2 c member, ?_⟩⟩
  · exact noEnd_of_mem_takeWhile (List.mem_reverse.1 member)
  · exact noEnd_of_mem_takeWhile member

/-! ## Places of units -/

section OwnLine

variable (unit : List Char)

/-- The place of a unit is widened by what stands on its lines. -/
theorem ownLine?_of_lines (before after : List Char) :
    ownLine? (before ++ unit ++ after) ⟨byteLength before, byteLength (before ++ unit)⟩ =
      if (lineBefore before).all isBlank && (lineAfter after).all isBlank then
        if byteLength (before ++ unit) + byteLength (lineAfter after) <
            byteLength (before ++ unit ++ after) then
          some ⟨byteLength before - byteLength (lineBefore before),
            byteLength (before ++ unit) + byteLength (lineAfter after) + 1⟩
        else
          some ⟨byteLength before - byteLength (lineBefore before) - 1,
            byteLength (before ++ unit) + byteLength (lineAfter after)⟩
      else some ⟨byteLength before, byteLength (before ++ unit)⟩ := by
  have front : takeBytes (byteLength before) (before ++ unit ++ after) = some before := by
    rw [List.append_assoc, takeBytes_append]
  have back : dropBytes (byteLength (before ++ unit)) (before ++ unit ++ after) = some after :=
    dropBytes_append ..
  have size : byteLength (lineBefore before) =
      byteLength (before.reverse.takeWhile (· != '\n')) := byteLength_reverse _
  have blank : (lineBefore before).all isBlank =
      (before.reverse.takeWhile (· != '\n')).all isBlank := List.all_reverse
  simp only [ownLine?, front, back, size, blank, lineAfter, Option.bind_eq_bind,
    Option.bind_some, Option.pure_def]

theorem ownLine?_of_not_alone {before after : List Char} (occupied : ¬ Alone before after) :
    ownLine? (before ++ unit ++ after) ⟨byteLength before, byteLength (before ++ unit)⟩ =
      some ⟨byteLength before, byteLength (before ++ unit)⟩ := by
  rw [ownLine?_of_lines, if_neg]
  simpa [Alone] using occupied

/-- A unit that stands alone takes its lines and the line end behind them. -/
theorem ownLine?_line {front lead tail : List Char} (start : LineStart front)
    (blankLead : Inline lead) (blankTail : Inline tail) (left : List Char) :
    ownLine? (front ++ lead ++ unit ++ (tail ++ '\n' :: left))
        ⟨byteLength (front ++ lead), byteLength (front ++ lead ++ unit)⟩ =
      some ⟨byteLength front, byteLength (front ++ lead ++ unit ++ (tail ++ ['\n']))⟩ := by
  have before : lineBefore (front ++ lead) = lead :=
    lineBefore_eq start fun c member => (blankLead c member).2
  have after : lineAfter (tail ++ '\n' :: left) = tail :=
    takeWhile_line (fun c member => (blankTail c member).2) left
  have narrow : '\n'.utf8Size = 1 := by decide
  rw [ownLine?_of_lines, before, after, if_pos, if_pos]
  · simp [narrow, Nat.add_assoc]
  · simp only [byteLength_append, byteLength_cons, narrow]
    omega
  · simpa [Bool.and_eq_true, List.all_eq_true] using ⟨blankLead.blank, blankTail.blank⟩

/-- A unit that stands alone at the end of a text takes the line end before its line. -/
theorem ownLine?_lastLine {front lead tail : List Char} (start : LineStart front)
    (blankLead : Inline lead) (blankTail : Inline tail) :
    ownLine? (front ++ lead ++ unit ++ tail)
        ⟨byteLength (front ++ lead), byteLength (front ++ lead ++ unit)⟩ =
      some ⟨byteLength front - 1, byteLength (front ++ lead ++ unit ++ tail)⟩ := by
  have before : lineBefore (front ++ lead) = lead :=
    lineBefore_eq start fun c member => (blankLead c member).2
  have after : lineAfter tail = tail :=
    takeWhile_lastLine fun c member => (blankTail c member).2
  have size := byteLength_append (front ++ lead ++ unit) tail
  rw [ownLine?_of_lines, before, after, ← size, if_pos, if_neg (Nat.lt_irrefl _)]
  · simp
  · simpa [Bool.and_eq_true, List.all_eq_true] using ⟨blankLead.blank, blankTail.blank⟩

end OwnLine

/-- The place of a unit is widened by blanks at most. -/
theorem ownLine?_eq (lead unit later : List Char) :
    ∃ front back taken rest, lead = front ++ back ∧ later = taken ++ rest ∧
      (∀ c ∈ back ++ taken, isBlank c = true) ∧
      ownLine? (lead ++ unit ++ later) ⟨byteLength lead, byteLength (lead ++ unit)⟩ =
        some ⟨byteLength front, byteLength (lead ++ unit ++ taken)⟩ := by
  by_cases alone : Alone lead later
  · have newline : isBlank '\n' = true := by decide
    obtain ⟨blankBack, blankTail⟩ := alone.inline
    obtain ⟨front, leadSplit, start⟩ := line_start lead
    obtain ⟨rest, laterSplit, ends⟩ := line_rest later
    generalize lineBefore lead = back at blankBack leadSplit
    generalize lineAfter later = tail at blankTail laterSplit
    subst leadSplit laterSplit
    rcases ends with rfl | ⟨left, rfl⟩
    · -- The text ends with the line, so that the line end before it is taken.
      have widened := ownLine?_lastLine unit start blankBack blankTail
      rw [← List.append_nil tail] at widened
      rcases start with rfl | ⟨earlier, rfl⟩
      · refine ⟨[], back, tail, [], rfl, rfl, ?_, by simpa using widened⟩
        simpa [or_imp, forall_and] using ⟨blankBack.blank, blankTail.blank⟩
      · have narrow : byteLength ['\n'] = 1 := by decide
        refine ⟨earlier, '\n' :: back, tail, [], by simp, rfl, ?_, ?_⟩
        · simpa [or_imp, forall_and, newline] using ⟨blankBack.blank, blankTail.blank⟩
        · rw [widened, byteLength_append earlier, narrow, Nat.add_sub_cancel, List.append_nil]
    · refine ⟨front, back, tail ++ ['\n'], left, rfl, by simp, ?_,
        ownLine?_line unit start blankBack blankTail left⟩
      simpa [or_imp, forall_and, newline] using ⟨blankBack.blank, blankTail.blank⟩
  · exact ⟨lead, [], [], later, by simp, rfl, by simp, by
      simpa using ownLine?_of_not_alone unit alone⟩

end FigureMarkup.AnnotatedText
