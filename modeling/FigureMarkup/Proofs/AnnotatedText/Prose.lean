import FigureMarkup.Proofs.AnnotatedText.Passages
import FigureMarkup.Proofs.Markup.Prose

/-!
# Prose of annotated text

Annotating a document keeps its prose, up to the backslashes that escape brackets. Only a unit that
moves a point and stands alone on its lines takes something along: the blanks around it, and one
line end. That is the one behind it, or in the last line the one before it, if no earlier unit has
taken that already.
-/

namespace FigureMarkup.AnnotatedText

open Construction Markup Text

/-! ## Unescaping -/

theorem replacePair_cons_of_ne {first c : Char} (other : c ≠ first) (second : Char)
    (new rest : List Char) :
    replacePair first second new (c :: rest) = c :: replacePair first second new rest := by
  cases rest with
  | nil => rfl
  | cons d rest =>
      rw [replacePair, if_neg]
      simp [other]

/-- Escaped text does not start with a special character. -/
theorem head?_escape_ne {special : Char → Bool} (backslash : special '\\' = false) {c : Char}
    (isSpecial : special c = true) (text : List Char) :
    (escape special text).head? ≠ some c := by
  cases text with
  | nil => simp [escape]
  | cons d rest =>
      rw [escape_cons]
      split
      case isTrue =>
        rintro ⟨⟩
        simp [backslash] at isSpecial
      case isFalse ordinary =>
        rintro ⟨⟩
        exact ordinary isSpecial

/-- To take the backslashes before one special character away leaves the others escaped. -/
theorem replacePair_escape {special : Char → Bool} (backslash : special '\\' = false)
    {bracket : Char} (isSpecial : special bracket = true) (text : List Char) :
    replacePair '\\' bracket [bracket] (escape special text) =
      escape (fun c => special c && c != bracket) text := by
  have different : bracket ≠ '\\' := by
    rintro rfl
    rw [isSpecial] at backslash
    cases backslash
  induction text with
  | nil => rfl
  | cons c rest ih =>
      rw [escape_cons, escape_cons]
      by_cases escaped : special c = true
      · by_cases same : c = bracket
        · subst same
          simp [escaped, replacePair, ih]
        · have plain : c ≠ '\\' := by
            rintro rfl
            rw [escaped] at backslash
            cases backslash
          have kept : ('\\' == '\\' && c == bracket) = false := by simp [same]
          simp [escaped, same, replacePair, replacePair_cons_of_ne plain, ih]
      · have single : (special c && c != bracket) = false := by simp [escaped]
        rw [if_neg escaped, single, ← ih]
        have first := head?_escape_ne backslash isSpecial rest
        generalize escape special rest = more at first
        cases more with
        | nil => simp [replacePair]
        | cons d more =>
            have other : d ≠ bracket := by simpa using first
            simp [replacePair, other]

/-- Unescaping takes one backslash away before each bracket, and changes nothing else. -/
theorem unescapeBrackets_escape (text : List Char) :
    unescapeBrackets (escape isBracket text) = text := by
  rw [unescapeBrackets, replacePair_escape (by decide) (by decide),
    replacePair_escape (by decide) (by decide), escape_of_plain]
  intro c _
  by_cases opens : c = '['
  · simp [opens]
  · by_cases closes : c = ']'
    · simp [closes]
    · simp [isBracket, opens, closes]

/-! ## What units take along -/

/-- A declaration moves a point, and shows nothing. -/
def Moves (declaration : Declaration) : Prop :=
  DeclarationKind.ofName? declaration.kind = some .loc

theorem vacated?_of_moves {declaration : Declaration} (moves : Moves declaration)
    (source : List Char) (cursor : Nat) :
    vacated? source cursor declaration =
      (ownLine? source declaration.span).map fun span => ⟨max span.start cursor, span.stop⟩ :=
  if_pos moves

theorem vacated?_of_not_moves {declaration : Declaration} (stays : ¬ Moves declaration)
    (source : List Char) (cursor : Nat) :
    vacated? source cursor declaration = some declaration.span :=
  if_neg stays

/-- What goes with the unit of a declaration, given the text before that is settled. Behind that
comes prose that is shown; what goes stands before the unit and behind it, and some text is left. -/
inductive Gap (declaration : Declaration) (settled : List Char) :
    List Char → List Char → List Char → List Char → Prop
  | unit (shown left : List Char)
      (stays : ¬ (Moves declaration ∧ Alone (settled ++ escape isBracket shown) left)) :
      Gap declaration settled shown [] [] left
  | line {shown lead tail : List Char} (left : List Char) (moves : Moves declaration)
      (start : LineStart (settled ++ escape isBracket shown)) (blankLead : Inline lead)
      (blankTail : Inline tail) : Gap declaration settled shown lead (tail ++ ['\n']) left
  | lastLine {lead tail : List Char} (shown : List Char) (moves : Moves declaration)
      (blankLead : Inline lead) (blankTail : Inline tail) :
      Gap declaration settled shown ('\n' :: lead) tail []
  /-- The line end before the last line is settled, or there is none. -/
  | onlyLine {lead tail : List Char} (moves : Moves declaration) (start : LineStart settled)
      (blankLead : Inline lead) (blankTail : Inline tail) :
      Gap declaration settled [] lead tail []

namespace Gap

variable {declaration : Declaration} {settled shown lead tail left : List Char}

/-- What goes with a unit is blank. -/
theorem blank (gap : Gap declaration settled shown lead tail left) :
    ∀ c ∈ lead ++ tail, isBlank c = true := by
  have newline : isBlank '\n' = true := by decide
  cases gap with
  | unit => simp
  | line _ _ _ blankLead blankTail =>
      simpa [or_imp, forall_and, newline] using ⟨blankLead.blank, blankTail.blank⟩
  | lastLine _ _ blankLead blankTail =>
      simpa [or_imp, forall_and, newline] using ⟨blankLead.blank, blankTail.blank⟩
  | onlyLine _ _ blankLead blankTail =>
      simpa [or_imp, forall_and] using ⟨blankLead.blank, blankTail.blank⟩

/-- The stretch that gives way to a unit is the unit with what goes with it. -/
theorem vacated? (gap : Gap declaration settled shown lead tail left) {unit : List Char}
    (place : declaration.span = ⟨byteLength (settled ++ escape isBracket shown ++ lead),
      byteLength (settled ++ escape isBracket shown ++ lead ++ unit)⟩) :
    vacated? (settled ++ escape isBracket shown ++ lead ++ unit ++ (tail ++ left))
        (byteLength settled) declaration =
      some ⟨byteLength (settled ++ escape isBracket shown),
        byteLength (settled ++ escape isBracket shown ++ lead ++ unit ++ tail)⟩ := by
  have behind (text : List Char) : max (byteLength (settled ++ text)) (byteLength settled) =
      byteLength (settled ++ text) := Nat.max_eq_left (by simp)
  cases gap with
  | unit _ _ stays =>
      simp only [List.append_nil, List.nil_append] at place ⊢
      by_cases moves : Moves declaration
      · have occupied : ¬ Alone (settled ++ escape isBracket shown) left :=
          fun alone => stays ⟨moves, alone⟩
        rw [vacated?_of_moves moves, place, ownLine?_of_not_alone unit occupied, Option.map_some,
          behind]
      · rw [vacated?_of_not_moves moves, place]
  | @line _ _ tail left moves start blankLead blankTail =>
      rw [vacated?_of_moves moves, place, List.append_assoc tail, List.singleton_append,
        ownLine?_line unit start blankLead blankTail left, Option.map_some, behind]
  | @lastLine lead _ _ moves blankLead blankTail =>
      have start : LineStart (settled ++ escape isBracket shown ++ ['\n']) := .inr ⟨_, rfl⟩
      have shape : settled ++ escape isBracket shown ++ '\n' :: lead =
          settled ++ escape isBracket shown ++ ['\n'] ++ lead := by
        simp
      have narrow : byteLength ['\n'] = 1 := by decide
      rw [shape] at place ⊢
      rw [vacated?_of_moves moves, place, List.append_nil,
        ownLine?_lastLine unit start blankLead blankTail, Option.map_some,
        byteLength_append _ ['\n'], narrow, Nat.add_sub_cancel, behind]
  | onlyLine moves start blankLead blankTail =>
      have nothing : settled ++ escape isBracket [] = settled := List.append_nil _
      rw [nothing] at place ⊢
      rw [vacated?_of_moves moves, place, List.append_nil,
        ownLine?_lastLine unit start blankLead blankTail, Option.map_some,
        Nat.max_eq_right (Nat.sub_le _ _)]

/-- A unit gives way together with what goes with it, and the prose before them is kept. -/
theorem piecesFrom? (gap : Gap declaration settled shown lead tail left) {unit : List Char}
    (place : declaration.span = ⟨byteLength (settled ++ escape isBracket shown ++ lead),
      byteLength (settled ++ escape isBracket shown ++ lead ++ unit)⟩)
    (declarations : List Declaration) (targets : List (Option String)) :
    piecesFrom? (settled ++ escape isBracket shown ++ lead ++ unit ++ tail ++ left)
        (byteLength settled) (declaration :: declarations) targets =
      (piecesFrom? (settled ++ escape isBracket shown ++ lead ++ unit ++ tail ++ left)
        (byteLength (settled ++ escape isBracket shown ++ lead ++ unit ++ tail)) declarations
        targets.tail).map fun pieces => .prose (escape isBracket shown) ::
          ((replacement declaration targets.head?.join).toList ++ pieces) := by
  have gives := gap.vacated? place
  have shape : settled ++ escape isBracket shown ++ lead ++ unit ++ tail =
      settled ++ escape isBracket shown ++ (lead ++ unit ++ tail) := by
    simp
  rw [← List.append_assoc, shape] at gives
  rw [shape]
  refine piecesFrom?_cons ?_ ?_ gives declarations targets
  · simp [place]
  · simp only [place, byteLength_append]
    omega

end Gap

/-- The text before a unit is at the start of the document, or ends with the unit before it or
with a line end that went with that, or else the document is over. -/
def Reached (settled remaining : List Char) : Prop :=
  remaining = [] ∨ LineStart settled ∨ ∃ front, settled = front ++ [']']

theorem Gap.reached {declaration : Declaration} {settled shown lead tail left content : List Char}
    (gap : Gap declaration settled shown lead tail left) (before : List Char) :
    Reached (before ++ ('[' :: (content ++ [']'])) ++ tail) left := by
  cases gap with
  | unit => exact .inr (.inr ⟨before ++ '[' :: content, by simp⟩)
  | @line _ _ tail _ _ _ _ _ =>
      exact .inr (.inl (.inr ⟨before ++ ('[' :: (content ++ [']'])) ++ tail, by simp⟩))
  | lastLine => exact .inl rfl
  | onlyLine => exact .inl rfl

/-- Blanks have no meaning for the search for units. -/
theorem ordinary_of_isBlank {c : Char} (blank : isBlank c = true) :
    c ≠ '\\' ∧ isBracket c = false := by
  have opens : c ≠ '[' := fun same => absurd blank (by subst same; decide)
  have closes : c ≠ ']' := fun same => absurd blank (by subst same; decide)
  exact ⟨fun same => absurd blank (by subst same; decide), by simp [isBracket, opens, closes]⟩

/-- No blanks of a line stand before a place that is reached: a unit ends with a bracket. -/
theorem eq_nil_of_reached {front more : List Char} (inline : Inline more)
    (reached : LineStart (front ++ more) ∨ ∃ earlier, front ++ more = earlier ++ [']']) :
    more = [] := by
  rcases List.eq_nil_or_concat more with rfl | ⟨more, c, rfl⟩
  · rfl
  · obtain ⟨blank, goesOn⟩ := inline c (by simp)
    rw [List.concat_eq_append, ← List.append_assoc] at reached
    rcases reached with (empty | ⟨earlier, ends⟩) | ⟨earlier, ends⟩
    · simp at empty
    · exact absurd (List.append_singleton_inj.1 ends).2 goesOn
    · obtain ⟨-, rfl⟩ := List.append_singleton_inj.1 ends
      exact absurd blank (by decide)

/-- If blanks stand before a unit on its line, then the line starts in the prose before the unit, or
where that begins. -/
theorem exists_shown_lead {settled : List Char}
    (reached : LineStart settled ∨ ∃ front, settled = front ++ [']']) {shown : List Char}
    (inline : Inline (lineBefore (settled ++ escape isBracket shown))) :
    ∃ kept, escape isBracket shown =
        escape isBracket kept ++ lineBefore (settled ++ escape isBracket shown) ∧
      LineStart (settled ++ escape isBracket kept) := by
  obtain ⟨front, whole, start⟩ := line_start (settled ++ escape isBracket shown)
  generalize lineBefore (settled ++ escape isBracket shown) = lead at inline whole ⊢
  rcases List.append_eq_append_iff.1 whole with ⟨before, rfl, split⟩ | ⟨more, rfl, rfl⟩
  · have plain : ∀ c ∈ lead, isBracket c = false :=
      fun c member => (ordinary_of_isBlank (inline c member).1).2
    obtain ⟨kept, rfl, rfl⟩ := escape_eq_append plain split
    exact ⟨kept, by rw [escape_append, escape_of_plain plain], start⟩
  · have within : Inline more := fun c member => inline c (List.mem_append_left _ member)
    obtain rfl := eq_nil_of_reached within reached
    exact ⟨[], rfl, by simpa [escape] using start⟩

/-- Prose before a line start ends with a line end. -/
theorem eq_newline_of_lineStart {settled kept : List Char} {c : Char}
    (start : LineStart (settled ++ escape isBracket (kept ++ [c]))) : c = '\n' := by
  have ends : ∃ before, settled ++ escape isBracket (kept ++ [c]) = before ++ [c] := by
    rw [escape_append]
    by_cases bracket : isBracket c = true
    · exact ⟨settled ++ escape isBracket kept ++ ['\\'], by simp [escape, bracket]⟩
    · exact ⟨settled ++ escape isBracket kept, by simp [escape, bracket]⟩
  obtain ⟨before, same⟩ := ends
  rw [same] at start
  rcases start with empty | ⟨front, newline⟩
  · simp at empty
  · exact (List.append_singleton_inj.1 newline).2

/-- What goes with a unit is found in the prose around it. -/
theorem exists_gap (declaration : Declaration) {settled : List Char}
    (reached : LineStart settled ∨ ∃ front, settled = front ++ [']']) (shown later : List Char) :
    ∃ kept lead tail left, escape isBracket shown = escape isBracket kept ++ lead ∧
      later = tail ++ left ∧ Gap declaration settled kept lead tail left := by
  by_cases widened : Moves declaration ∧ Alone (settled ++ escape isBracket shown) later
  · obtain ⟨moves, alone⟩ := widened
    obtain ⟨blankLead, blankTail⟩ := alone.inline
    obtain ⟨kept, split, start⟩ := exists_shown_lead reached blankLead
    obtain ⟨rest, laterSplit, ends⟩ := line_rest later
    generalize lineBefore (settled ++ escape isBracket shown) = lead at blankLead split
    generalize lineAfter later = tail at blankTail laterSplit
    subst laterSplit
    rcases ends with rfl | ⟨left, rfl⟩
    · rcases List.eq_nil_or_concat kept with rfl | ⟨kept, c, rfl⟩
      · refine ⟨[], lead, tail, [], split, by simp, .onlyLine moves ?_ blankLead blankTail⟩
        simpa [escape] using start
      · rw [List.concat_eq_append] at start split
        obtain rfl := eq_newline_of_lineStart start
        have newline : escape isBracket ['\n'] = ['\n'] := by decide
        refine ⟨kept, '\n' :: lead, tail, [], ?_, by simp,
          .lastLine kept moves blankLead blankTail⟩
        rw [split, escape_append, newline, List.append_assoc, List.singleton_append]
    · exact ⟨kept, lead, tail ++ ['\n'], left, split, by simp,
        .line left moves start blankLead blankTail⟩
  · exact ⟨shown, [], [], later, by simp, rfl, .unit shown later widened⟩

/-! ## Whole documents -/

/-- Prose as it is shown, the text of the unit behind it with the blanks that go with the unit on
both sides, and what takes its place. -/
structure Fragment where
  shown : List Char
  lead : List Char
  unit : List Char
  tail : List Char
  output : String

def Fragment.text (fragment : Fragment) : String :=
  String.ofList fragment.shown ++ fragment.output

/-- A document behind some settled text is fragments, one for each declaration, and prose at the
end. Brackets are escaped in the document, and are shown without the backslash. What takes the place
of a unit is as it is if the text before has some number of section breaks. -/
inductive Fragments : List Char → Nat → List Char → List Declaration → List (Option String) →
    List Fragment → List Char → Prop
  | rest (settled : List Char) (number : Nat) (targets : List (Option String))
      (shown : List Char) :
      Fragments settled number (escape isBracket shown) [] targets [] shown
  | fragment {settled : List Char} {number : Nat} {shown lead content tail left : List Char}
      {declaration : Declaration} {declarations : List Declaration}
      {targets : List (Option String)} {fragments : List Fragment} {rest : List Char}
      (gap : Gap declaration settled shown lead tail left)
      (place : declaration.span = ⟨byteLength (settled ++ escape isBracket shown ++ lead),
        byteLength (settled ++ escape isBracket shown ++ lead ++ ('[' :: (content ++ [']'])))⟩)
      (others : Fragments
        (settled ++ escape isBracket shown ++ lead ++ ('[' :: (content ++ [']'])) ++ tail)
        (number + (replacement declaration targets.head?.join).toList.count .step) left
        declarations targets.tail fragments rest) :
      Fragments settled number
        (escape isBracket shown ++ lead ++ ('[' :: (content ++ [']'])) ++ tail ++ left)
        (declaration :: declarations) targets
        (⟨shown, lead, '[' :: (content ++ [']']), tail,
          render number (replacement declaration targets.head?.join).toList⟩ :: fragments) rest

/-- The search for units finds the next one with the prose before it, and goes on behind what goes
with the unit. -/
theorem exists_turn {declaration : Declaration} {settled remaining : List Char}
    {units : List Bracketed} {spans : List Span}
    (found : bracketedFrom none (Cursor.start.beyond settled) remaining = .ok units)
    (places : declaration.span :: spans = units.map (·.span))
    (reached : Reached settled remaining) :
    ∃ shown lead content tail left others,
      remaining = escape isBracket shown ++ lead ++ ('[' :: (content ++ [']'])) ++ tail ++ left ∧
      Gap declaration settled shown lead tail left ∧
      declaration.span = ⟨byteLength (settled ++ escape isBracket shown ++ lead),
        byteLength (settled ++ escape isBracket shown ++ lead ++ ('[' :: (content ++ [']'])))⟩ ∧
      bracketedFrom none (Cursor.start.beyond
        (settled ++ escape isBracket shown ++ lead ++ ('[' :: (content ++ [']'])) ++ tail)) left =
        .ok others ∧
      spans = others.map (·.span) := by
  cases turn_bracketedFrom found with
  | prose => cases places
  | @unit shown content later unit others place goesOn =>
      obtain ⟨here, spans⟩ : declaration.span = unit.span ∧ spans = others.map (·.span) :=
        List.cons.inj places
      have inside : LineStart settled ∨ ∃ front, settled = front ++ [']'] :=
        reached.resolve_left (by simp)
      obtain ⟨kept, lead, tail, left, split, rfl, gap⟩ :=
        exists_gap declaration inside shown later
      have ordinary : ∀ c ∈ tail, c ≠ '\\' ∧ isBracket c = false := fun c member =>
        ordinary_of_isBlank (gap.blank c (List.mem_append_right lead member))
      refine ⟨kept, lead, content, tail, left, others, ?_, gap, ?_, ?_, spans⟩
      · rw [split, List.append_assoc _ tail]
      · rw [here, place, split]
        simp [Cursor.beyond, Cursor.start]
      · rw [bracketedFrom_ordinary ordinary, ← Cursor.beyond_append, ← Cursor.beyond_append,
          split] at goesOn
        simpa using goesOn

/-- No declaration is left out of the annotated text. -/
theorem exists_fragments {declarations : List Declaration} {settled remaining : List Char}
    {units : List Bracketed}
    (found : bracketedFrom none (Cursor.start.beyond settled) remaining = .ok units)
    (places : declarations.map (·.span) = units.map (·.span)) (reached : Reached settled remaining)
    (number : Nat) (targets : List (Option String)) :
    ∃ fragments rest pieces,
      Fragments settled number remaining declarations targets fragments rest ∧
      piecesFrom? (settled ++ remaining) (byteLength settled) declarations targets = some pieces ∧
      render number pieces = String.join (fragments.map Fragment.text) ++ String.ofList rest := by
  induction declarations generalizing settled remaining units number targets with
  | nil =>
      obtain rfl : units = [] := List.map_eq_nil_iff.1 places.symm
      generalize empty : ([] : List Bracketed) = units at found
      cases turn_bracketedFrom found with
      | unit => cases empty
      | prose shown =>
          refine ⟨[], shown, [.prose (escape isBracket shown)], .rest .., ?_, ?_⟩
          · rw [piecesFrom?, dropBytes_append, Option.map_some]
          · rw [render_prose, render_nil, String.append_empty, unescapeBrackets_escape,
              List.map_nil]
            exact (String.empty_append ..).symm
  | cons declaration declarations ih =>
      obtain ⟨shown, lead, content, tail, left, others, rfl, gap, place, goesOn, places⟩ :=
        exists_turn found places reached
      let here := (replacement declaration targets.head?.join).toList
      obtain ⟨fragments, rest, pieces, divided, pieced, written⟩ :=
        ih goesOn places (gap.reached _) (number + here.count .step) targets.tail
      refine ⟨⟨shown, lead, '[' :: (content ++ [']']), tail, render number here⟩ :: fragments,
        rest, .prose (escape isBracket shown) :: (here ++ pieces), .fragment gap place divided,
        ?_, ?_⟩
      · have whole : settled ++ (escape isBracket shown ++ lead ++ ('[' :: (content ++ [']'])) ++
            tail ++ left) = settled ++ escape isBracket shown ++ lead ++
              ('[' :: (content ++ [']'])) ++ tail ++ left := by
          simp
        rw [whole, gap.piecesFrom? place, pieced]
        rfl
      · rw [render_prose, render_append, written, unescapeBrackets_escape, List.map_cons,
          String.join_cons, Fragment.text]
        simp only [String.append_assoc]

/-- The part of the document that a fragment has. -/
def Fragment.source (fragment : Fragment) : List Char :=
  escape isBracket fragment.shown ++ fragment.lead ++ fragment.unit ++ fragment.tail

/-- The prose of the document that a fragment has. -/
def Fragment.prose (fragment : Fragment) : List Char :=
  escape isBracket fragment.shown ++ fragment.lead ++ fragment.tail

/-- Text without its blanks. -/
def solid (text : List Char) : List Char := text.filter (!isBlank ·)

theorem solid_append (first second : List Char) :
    solid (first ++ second) = solid first ++ solid second :=
  List.filter_append ..

theorem solid_of_blank {text : List Char} (blank : ∀ c ∈ text, isBlank c = true) :
    solid text = [] := by
  simpa [solid] using blank

/-- Blanks are not escaped, and neither brackets nor backslashes are blank. -/
theorem solid_escape (text : List Char) :
    solid (escape isBracket text) = escape isBracket (solid text) := by
  induction text with
  | nil => rfl
  | cons c rest ih =>
      have backslash : isBlank '\\' = false := by decide
      rw [escape_cons, solid_append, ih]
      by_cases blank : isBlank c = true
      · have ordinary := (ordinary_of_isBlank blank).2
        simp [solid, blank, ordinary]
      · have here : solid (c :: rest) = c :: solid rest := by simp [solid, blank]
        rw [here, escape_cons]
        congr 1
        split <;> simp [solid, blank, backslash]

theorem Fragment.solid_prose {fragment : Fragment}
    (blank : ∀ c ∈ fragment.lead ++ fragment.tail, isBlank c = true) :
    solid fragment.prose = escape isBracket (solid fragment.shown) := by
  rw [Fragment.prose, List.append_assoc, solid_append, solid_of_blank blank, List.append_nil,
    solid_escape]

namespace Fragments

variable {settled remaining rest : List Char} {number : Nat} {declarations : List Declaration}
  {targets : List (Option String)} {fragments : List Fragment}

/-- Each declaration has its own fragment. -/
theorem length_eq
    (divided : Fragments settled number remaining declarations targets fragments rest) :
    fragments.length = declarations.length := by
  induction divided with
  | rest => rfl
  | fragment _ _ _ ih => rw [List.length_cons, List.length_cons, ih]

/-- The fragments make up the document. -/
theorem source_eq
    (divided : Fragments settled number remaining declarations targets fragments rest) :
    remaining = fragments.flatMap Fragment.source ++ escape isBracket rest := by
  induction divided with
  | rest => rfl
  | fragment _ _ _ ih =>
      rw [List.flatMap_cons, List.append_assoc _ _ (escape isBracket _), ← ih]
      rfl

/-- Nothing of the prose is lost but blanks, and the backslashes that escape brackets. -/
theorem solid_prose
    (divided : Fragments settled number remaining declarations targets fragments rest) :
    solid (fragments.flatMap Fragment.prose ++ escape isBracket rest) =
      escape isBracket (solid (fragments.flatMap (·.shown) ++ rest)) := by
  induction divided with
  | rest => exact solid_escape _
  | fragment gap _ _ ih =>
      rw [List.flatMap_cons, List.flatMap_cons, List.append_assoc, List.append_assoc,
        solid_append (Fragment.prose _), ih, Fragment.solid_prose gap.blank, ← escape_append,
        ← solid_append]

end Fragments

/-- The annotated text of a document that can be read has all its declarations and all its prose,
in order: each stretch of prose is shown without the backslashes that escape its brackets, behind it
comes what takes the place of the unit, and nothing goes but the blanks that go with units which
stand alone. -/
theorem annotation_keeps_prose {document : String} {declarations : List Declaration}
    (read : Declaration.parse document = .ok declarations) (targets : List (Option String)) :
    ∃ fragments rest,
      Fragments [] 0 document.toList declarations targets fragments rest ∧
      fragments.length = declarations.length ∧
      document.toList = fragments.flatMap Fragment.source ++ escape isBracket rest ∧
      solid (fragments.flatMap Fragment.prose ++ escape isBracket rest) =
        escape isBracket (solid (fragments.flatMap (·.shown) ++ rest)) ∧
      annotate? document declarations targets =
        some ("<div id='step_0'>" ++ (String.join (fragments.map Fragment.text) ++
          String.ofList rest) ++ "</div>") := by
  unfold Declaration.parse at read
  cases found : Bracketed.find document with
  | error error =>
      rw [found] at read
      cases read
  | ok units =>
      rw [found] at read
      have found : bracketedFrom none (Cursor.start.beyond []) document.toList = .ok units := found
      obtain ⟨fragments, rest, pieces, divided, pieced, written⟩ :=
        exists_fragments found (Declaration.spans_ofUnits read) (.inr (.inl (.inl rfl))) 0 targets
      refine ⟨fragments, rest, divided, divided.length_eq, divided.source_eq,
        divided.solid_prose, ?_⟩
      rw [← written]
      exact congrArg (Option.map _) pieced

/-- A unit that stands alone takes its line along and leaves nothing. A label takes the place of a
unit in the middle of a line, and a section break that of the marker of a step. -/
theorem annotation_keeps_prose_lines :
    let document := "a \\[b\\]\n [loc A 1 2] \nSee [line AB].\n[step]\nDone."
    let declarations : List Declaration :=
      [⟨"loc", some "A", 2, ⟨9, 20⟩, [], ["1", "2"]⟩,
        ⟨"line", some "AB", 3, ⟨26, 35⟩, [], []⟩, ⟨"step", none, 4, ⟨37, 43⟩, [], []⟩]
    let targets := [some "point_A", some "line_AB", none]
    let text := "<div id='step_0'>a [b]\nSee <span name='text_line_AB' class='GeoElement'>" ++
      "line AB</span>.\n</div><div id='step_1'>\nDone.</div>"
    Declaration.parse document = .ok declarations ∧
      ∃ fragments rest,
        Fragments [] 0 document.toList declarations targets fragments rest ∧
        fragments.length = declarations.length ∧
        document.toList = fragments.flatMap Fragment.source ++ escape isBracket rest ∧
        solid (fragments.flatMap Fragment.prose ++ escape isBracket rest) =
          escape isBracket (solid (fragments.flatMap (·.shown) ++ rest)) ∧
        annotate? document declarations targets = some text ∧
        text = "<div id='step_0'>" ++ (String.join (fragments.map Fragment.text) ++
          String.ofList rest) ++ "</div>" := by
  intro document declarations targets text
  have read : Declaration.parse document = .ok declarations := by decide +kernel
  have annotated : annotate? document declarations targets = some text := by decide +kernel
  obtain ⟨fragments, rest, divided, length, source, prose, joined⟩ :=
    annotation_keeps_prose read targets
  have same := Option.some.inj (annotated.symm.trans joined)
  exact ⟨read, fragments, rest, divided, length, source, prose, annotated, same⟩

end FigureMarkup.AnnotatedText
