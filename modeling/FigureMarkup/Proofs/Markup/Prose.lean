import FigureMarkup.Proofs.Markup.Composition

/-!
# Prose between units

The search for units passes over prose in which every bracket has a backslash of its own before it.
So a document that can be read is, turn by turn, some text with its brackets escaped and a unit.
-/

namespace FigureMarkup.Markup

open Text

/-! ## Escaped text -/

def isBracket (c : Char) : Bool := c == '[' || c == ']'

section Escape

variable {special : Char → Bool}

theorem escape_append (first second : List Char) :
    escape special (first ++ second) = escape special first ++ escape special second :=
  List.flatMap_append

theorem escape_of_plain {text : List Char} (plain : ∀ c ∈ text, special c = false) :
    escape special text = text := by
  induction text with
  | nil => rfl
  | cons c rest ih =>
      obtain ⟨first, others⟩ := List.forall_mem_cons.1 plain
      rw [escape_cons, ih others, first]
      rfl

/-- What stands at the end of escaped text without being special stands there unescaped. -/
theorem escape_eq_append {text before after : List Char}
    (plain : ∀ c ∈ after, special c = false) (split : escape special text = before ++ after) :
    ∃ kept, text = kept ++ after ∧ escape special kept = before := by
  induction text using List.reverseRecOn generalizing after with
  | nil =>
      obtain ⟨rfl, rfl⟩ := List.append_eq_nil_iff.1 split.symm
      exact ⟨[], rfl, rfl⟩
  | append_singleton earlier c ih =>
      rcases List.eq_nil_or_concat after with rfl | ⟨after, d, rfl⟩
      · exact ⟨earlier ++ [c], by simp, by simpa using split⟩
      · have escapes : escape special [c] = if special c then ['\\', c] else [c] := by
          simp [escape]
        have last : escape special earlier ++ escape special [c] = before ++ after ++ [d] := by
          rw [← escape_append, split, List.concat_eq_append, List.append_assoc]
        have ordinary : special d = false := plain d (by simp)
        have others (e : Char) (member : e ∈ after) : special e = false :=
          plain e (by simp [member])
        rw [escapes] at last
        split at last
        case isTrue escaped =>
          have shape : escape special earlier ++ ['\\'] ++ [c] = before ++ after ++ [d] := by
            simpa using last
          obtain ⟨-, rfl⟩ := List.append_singleton_inj.1 shape
          rw [escaped] at ordinary
          cases ordinary
        case isFalse =>
          obtain ⟨same, rfl⟩ := List.append_singleton_inj.1 last
          obtain ⟨kept, rfl, escaped⟩ := ih others same
          exact ⟨kept, by simp, escaped⟩

end Escape

/-! ## Turns of the search -/

section Search

variable {here : Cursor} {rest : List Char} {units : List Bracketed}

/-- The search passes over text with neither backslashes nor brackets. -/
theorem bracketedFrom_ordinary {text : List Char}
    (plain : ∀ c ∈ text, c ≠ '\\' ∧ isBracket c = false) :
    bracketedFrom none here (text ++ rest) = bracketedFrom none (here.beyond text) rest := by
  induction text generalizing here with
  | nil => rfl
  | cons c text ih =>
      obtain ⟨⟨noEscape, ordinary⟩, others⟩ := List.forall_mem_cons.1 plain
      have ⟨unopened, unclosed⟩ : c ≠ '[' ∧ c ≠ ']' := by simpa [isBracket] using ordinary
      rw [List.cons_append, bracketedFrom_plain _ _ _ noEscape unopened unclosed, Option.map_none,
        ih others, Cursor.beyond_cons]

/-- The unit that is open ends at a closing bracket, and the search goes on behind it. -/
theorem Searched.opened {opening : Opening} (searched : Searched (some opening) here rest units) :
    ∃ content later unit others, rest = content ++ ']' :: later ∧ units = unit :: others ∧
      unit.span = ⟨opening.place.offset, (here.beyond (content ++ [']'])).offset⟩ ∧
      Searched none (here.beyond (content ++ [']'])) later others := by
  generalize inside : some opening = unit at searched
  induction searched generalizing opening with
  | done => cases inside
  | lone => cases inside
  | opens => cases inside
  | closes others =>
      cases inside
      have narrow : ']'.utf8Size = 1 := by decide
      refine ⟨[], _, _, _, rfl, rfl, ?_, ?_⟩
      · simp [Opening.close, Cursor.beyond, narrow]
      · rwa [List.nil_append, Cursor.beyond_cons, Cursor.beyond_nil]
  | @escaped _ _ c _ _ _ ih =>
      subst inside
      obtain ⟨content, later, unit, others, rfl, rfl, place, goesOn⟩ := ih rfl
      refine ⟨'\\' :: c :: content, later, unit, others, rfl, rfl, ?_, ?_⟩
      · rw [place, List.cons_append, List.cons_append, Cursor.beyond_cons, Cursor.beyond_cons]
        rfl
      · rwa [List.cons_append, List.cons_append, Cursor.beyond_cons, Cursor.beyond_cons]
  | @plain _ _ c _ _ _ _ _ _ ih =>
      subst inside
      obtain ⟨content, later, unit, others, rfl, rfl, place, goesOn⟩ := ih rfl
      refine ⟨c :: content, later, unit, others, rfl, rfl, ?_, ?_⟩
      · rw [place, List.cons_append, Cursor.beyond_cons]
        rfl
      · rwa [List.cons_append, Cursor.beyond_cons]

/-- One turn of the search from some place on: the rest is prose, or prose and a unit, behind which
the search goes on. -/
inductive Turn (here : Cursor) : List Char → List Bracketed → Prop
  | prose (shown : List Char) : Turn here (escape isBracket shown) []
  | unit (shown content later : List Char) {unit : Bracketed} {others : List Bracketed}
      (place : unit.span = ⟨(here.beyond (escape isBracket shown)).offset,
        (here.beyond (escape isBracket shown ++ ('[' :: (content ++ [']'])))).offset⟩)
      (goesOn : bracketedFrom none
        (here.beyond (escape isBracket shown ++ ('[' :: (content ++ [']'])))) later = .ok others) :
      Turn here (escape isBracket shown ++ ('[' :: (content ++ [']'])) ++ later) (unit :: others)

/-- What the search passes over is prose together with the prose of the turn behind it. -/
theorem Turn.behind {before text : List Char} (escaped : escape isBracket before = text)
    (turn : Turn (here.beyond text) rest units) : Turn here (text ++ rest) units := by
  subst escaped
  cases turn with
  | prose shown =>
      rw [← escape_append]
      exact .prose (before ++ shown)
  | unit shown content later place goesOn =>
      rw [← List.append_assoc, ← List.append_assoc, ← escape_append]
      rw [← Cursor.beyond_append, ← List.append_assoc, ← escape_append] at goesOn
      refine .unit (before ++ shown) content later ?_ goesOn
      rw [place, ← Cursor.beyond_append, ← Cursor.beyond_append, ← List.append_assoc,
        ← escape_append]

theorem Searched.turn (searched : Searched none here rest units) : Turn here rest units := by
  generalize outside : none = opening at searched
  induction searched with
  | done => exact .prose []
  | lone => exact .prose ['\\']
  | @escaped _ here c rest _ _ ih =>
      subst outside
      have reached : (here.past '\\').past c = here.beyond ['\\', c] := by
        rw [Cursor.beyond_cons, Cursor.beyond_cons, Cursor.beyond_nil]
      have turn := ih rfl
      rw [reached] at turn
      -- The backslash belongs to a bracket, and before any other character it is prose.
      by_cases bracket : isBracket c = true
      · have escaped : escape isBracket [c] = ['\\', c] := by simp [escape, bracket]
        exact turn.behind escaped
      · have backslash : isBracket '\\' = false := by decide
        have kept : escape isBracket ['\\', c] = ['\\', c] := by
          simp [escape, bracket, backslash]
        exact turn.behind kept
  | @opens here _ _ opened =>
      obtain ⟨content, later, unit, others, rfl, rfl, place, goesOn⟩ := opened.opened
      have whole : '[' :: (content ++ ']' :: later) =
          escape isBracket [] ++ ('[' :: (content ++ [']'])) ++ later := by
        simp [escape]
      have reached : (here.past '[').beyond (content ++ [']']) =
          here.beyond (escape isBracket [] ++ ('[' :: (content ++ [']']))) :=
        (Cursor.beyond_cons ..).symm
      rw [whole]
      rw [reached] at place goesOn
      exact .unit [] content later place (bracketedFrom_eq_ok_iff.2 goesOn)
  | closes => cases outside
  | @plain _ here c rest _ _ unopened unclosed _ ih =>
      subst outside
      have reached : here.past c = here.beyond [c] := by
        rw [Cursor.beyond_cons, Cursor.beyond_nil]
      have kept : escape isBracket [c] = [c] := by
        simp [escape, isBracket, unopened, unclosed]
      have turn := ih rfl
      rw [reached] at turn
      exact turn.behind kept

/-- A search that finds units takes turns. -/
theorem turn_bracketedFrom (found : bracketedFrom none here rest = .ok units) :
    Turn here rest units :=
  (Searched.of_bracketedFrom found).turn

end Search

end FigureMarkup.Markup
