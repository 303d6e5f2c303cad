import FigureMarkup.Markup.Bracketed
import FigureMarkup.Proofs.Markup.Escapes
import FigureMarkup.Proofs.Text.Places

/-!
# Live brackets

A bracket is live if the backslashes right before it are even in number. The search for units reads
a document by escapes and knows nothing of that number, but the brackets that it meets are the live
ones. It succeeds if they open and close by turns and the last one closes. The units are then the
pairs of successive live brackets; otherwise the error stands at the first live bracket that breaks
the order, or at the last one if it opens a unit that is never closed.
-/

namespace FigureMarkup.Markup

open Text

/-! ## Steps of the search -/

section Steps

variable (opening : Option Opening) (here : Cursor) (rest : List Char)

theorem bracketedFrom_escaped (c : Char) :
    bracketedFrom opening here ('\\' :: c :: rest) =
      bracketedFrom ((opening.map (·.push '\\')).map (·.push c)) ((here.past '\\').past c)
        rest := by
  rw [bracketedFrom, Option.map_map]
  rfl

theorem bracketedFrom_lone :
    bracketedFrom opening here ['\\'] =
      bracketedFrom (opening.map (·.push '\\')) (here.past '\\') [] := by
  rw [bracketedFrom] <;> nofun

theorem bracketedFrom_plain {c : Char} (plain : c ≠ '\\') (unopened : c ≠ '[')
    (unclosed : c ≠ ']') :
    bracketedFrom opening here (c :: rest) =
      bracketedFrom (opening.map (·.push c)) (here.past c) rest := by
  rw [bracketedFrom]
  · intro d later backslash
    exact absurd backslash plain
  · exact unopened
  · exact unclosed

theorem bracketedFrom_open :
    bracketedFrom none here ('[' :: rest) =
      bracketedFrom (some ⟨here, []⟩) (here.past '[') rest := by
  rw [bracketedFrom]

theorem bracketedFrom_close (opening : Opening) :
    bracketedFrom (some opening) here (']' :: rest) =
      (bracketedFrom none (here.past ']') rest).map (opening.close here :: ·) := by
  rw [bracketedFrom]

end Steps

/-! ## Searches that succeed -/

theorem map_ok {α β : Type} {result : Except BracketError α} {f : α → β} {b : β}
    (mapped : result.map f = .ok b) : ∃ a, result = .ok a ∧ f a = b := by
  cases result with
  | error error => cases mapped
  | ok a => exact ⟨a, rfl, Except.ok.inj mapped⟩

/-- The steps of a search that finds units. A bracket opens a unit only while none is open and
closes only an open one, and none is left open at the end. -/
inductive Searched : Option Opening → Cursor → List Char → List Bracketed → Prop
  | done {here : Cursor} : Searched none here [] []
  | lone {here : Cursor} : Searched none here ['\\'] []
  | escaped {opening : Option Opening} {here : Cursor} {c : Char} {rest : List Char}
      {units : List Bracketed}
      (others : Searched ((opening.map (·.push '\\')).map (·.push c)) ((here.past '\\').past c)
        rest units) :
      Searched opening here ('\\' :: c :: rest) units
  | opens {here : Cursor} {rest : List Char} {units : List Bracketed}
      (others : Searched (some ⟨here, []⟩) (here.past '[') rest units) :
      Searched none here ('[' :: rest) units
  | closes {opening : Opening} {here : Cursor} {rest : List Char} {units : List Bracketed}
      (others : Searched none (here.past ']') rest units) :
      Searched (some opening) here (']' :: rest) (opening.close here :: units)
  | plain {opening : Option Opening} {here : Cursor} {c : Char} {rest : List Char}
      {units : List Bracketed} (plain : c ≠ '\\') (unopened : c ≠ '[') (unclosed : c ≠ ']')
      (others : Searched (opening.map (·.push c)) (here.past c) rest units) :
      Searched opening here (c :: rest) units

theorem Searched.of_bracketedFrom {opening : Option Opening} {here : Cursor} {rest : List Char}
    {units : List Bracketed} (found : bracketedFrom opening here rest = .ok units) :
    Searched opening here rest units := by
  induction rest using escape_induction generalizing opening here units with
  | nil =>
      cases opening with
      | some opening => cases found
      | none => cases found; exact .done
  | lone =>
      cases opening with
      | some opening => cases found
      | none => cases found; exact .lone
  | escaped c rest ih =>
      rw [bracketedFrom_escaped] at found
      exact .escaped (ih found)
  | plain c rest plain ih =>
      by_cases opens : c = '['
      · subst opens
        cases opening with
        | some opening => cases found
        | none => exact .opens (ih found)
      · by_cases closes : c = ']'
        · subst closes
          cases opening with
          | none => cases found
          | some opening =>
              rw [bracketedFrom_close] at found
              obtain ⟨later, foundLater, rfl⟩ := map_ok found
              exact .closes (ih foundLater)
        · rw [bracketedFrom_plain _ _ _ plain opens closes] at found
          exact .plain plain opens closes (ih found)

/-- A search finds units exactly if it goes through the text by these steps. -/
theorem bracketedFrom_eq_ok_iff {opening : Option Opening} {here : Cursor} {rest : List Char}
    {units : List Bracketed} :
    bracketedFrom opening here rest = .ok units ↔ Searched opening here rest units := by
  constructor
  · exact Searched.of_bracketedFrom
  · intro searched
    induction searched with
    | done => rfl
    | lone => rfl
    | escaped _ ih => rw [bracketedFrom_escaped, ih]
    | opens _ ih => rw [bracketedFrom_open, ih]
    | closes _ ih => rw [bracketedFrom_close, ih]; rfl
    | plain plain unopened unclosed _ ih =>
        rw [bracketedFrom_plain _ _ _ plain unopened unclosed, ih]

/-! ## Marks -/

/-- A bracket of a document, with the text before it. -/
structure Mark where
  before : List Char
  bracket : Char
deriving DecidableEq, Repr

def Mark.place (mark : Mark) : Cursor := Cursor.start.beyond mark.before

/-- The live brackets in the rest of a document, given the text before it. -/
def liveFrom (before : List Char) : List Char → List Mark
  | [] => []
  | c :: rest =>
      if (c = '[' ∨ c = ']') ∧ Whole before then
        ⟨before, c⟩ :: liveFrom (before ++ [c]) rest
      else
        liveFrom (before ++ [c]) rest

/-- The live brackets of a document, in order. -/
def liveBrackets (document : String) : List Mark := liveFrom [] document.toList

theorem liveFrom_of_ne {c : Char} (unopened : c ≠ '[') (unclosed : c ≠ ']')
    (before rest : List Char) : liveFrom before (c :: rest) = liveFrom (before ++ [c]) rest := by
  rw [liveFrom, if_neg]
  rintro ⟨opened | closed, -⟩
  · exact unopened opened
  · exact unclosed closed

theorem liveFrom_of_bracket {before : List Char} (whole : Whole before) {c : Char}
    (bracket : c = '[' ∨ c = ']') (rest : List Char) :
    liveFrom before (c :: rest) = ⟨before, c⟩ :: liveFrom (before ++ [c]) rest := by
  rw [liveFrom, if_pos ⟨bracket, whole⟩]

/-- An escaped bracket is not live. -/
theorem liveFrom_escaped {before : List Char} (whole : Whole before) (c : Char)
    (rest : List Char) :
    liveFrom before ('\\' :: c :: rest) = liveFrom (before ++ ['\\', c]) rest := by
  have escaping : ¬ Whole (before ++ ['\\']) := by
    rw [whole_concat_iff whole]
    simp
  rw [liveFrom_of_ne (by decide) (by decide), liveFrom, if_neg fun live => escaping live.2,
    List.append_assoc]
  rfl

theorem bracket_of_mem_liveFrom {mark : Mark} {before rest : List Char}
    (live : mark ∈ liveFrom before rest) : mark.bracket = '[' ∨ mark.bracket = ']' := by
  induction rest generalizing before with
  | nil => cases live
  | cons c rest ih =>
      rw [liveFrom] at live
      split at live
      case isTrue found =>
        rcases List.mem_cons.1 live with rfl | later
        · exact found.1
        · exact ih later
      case isFalse => exact ih live

/-! ## Pairing marks -/

/-- The unit between two brackets of a document. -/
def Mark.unit (opening closing : Mark) : Bracketed :=
  ⟨String.ofList (closing.before.drop (opening.before.length + 1)),
    ⟨opening.place.offset, closing.place.offset + 1⟩, opening.place.line⟩

/-- Pair up brackets, given the one that is open, if one is. -/
def pairUp : Option Mark → List Mark → Except BracketError (List Bracketed)
  | none, [] => .ok []
  | some opening, [] => .error (.at .unclosed opening.place)
  | none, mark :: later =>
      if mark.bracket = '[' then pairUp (some mark) later
      else .error (.at .unopened mark.place)
  | some opening, mark :: later =>
      if mark.bracket = '[' then .error (.at (.nested opening.place.line) mark.place)
      else (pairUp none later).map (opening.unit mark :: ·)

/-- What a search has read of the unit that a bracket opens, when it has read some text. -/
def Mark.read (mark : Mark) (text : List Char) : Opening :=
  ⟨mark.place, (text.drop (mark.before.length + 1)).reverse⟩

theorem Mark.push_read {mark : Mark} {text : List Char}
    (earlier : mark.before.length < text.length) (c : Char) :
    (mark.read text).push c = mark.read (text ++ [c]) := by
  have inside : mark.before.length + 1 ≤ text.length := earlier
  simp [read, Opening.push, List.drop_append_of_le_length inside]

theorem Mark.read_concat (before : List Char) (bracket : Char) :
    Mark.read ⟨before, bracket⟩ (before ++ [bracket]) = ⟨Cursor.start.beyond before, []⟩ := by
  simp [read, place]

theorem Mark.close_read (opening closing : Mark) :
    (opening.read closing.before).close closing.place = opening.unit closing := by
  simp [read, unit, Opening.close]

/-- The bracket that is open, if one is, stands in a text. -/
def OpenIn (opening : Option Mark) (text : List Char) : Prop :=
  ∀ mark ∈ opening, mark.before.length < text.length

theorem openIn_none (text : List Char) : OpenIn none text := nofun

theorem OpenIn.concat {opening : Option Mark} {text : List Char} (within : OpenIn opening text)
    (c : Char) : OpenIn opening (text ++ [c]) := by
  intro mark member
  have earlier := within mark member
  rw [List.length_append]
  omega

theorem OpenIn.push {opening : Option Mark} {text : List Char} (within : OpenIn opening text)
    (c : Char) :
    (opening.map (·.read text)).map (·.push c) = opening.map (·.read (text ++ [c])) := by
  cases opening with
  | none => rfl
  | some mark => exact congrArg some (Mark.push_read (within mark rfl) c)

/-- The search for units pairs up the live brackets. The text before the place reached is whole,
since an escape is read in one step. -/
theorem bracketedFrom_eq_pairUp (rest : List Char) {before : List Char} (whole : Whole before)
    {opening : Option Mark} (within : OpenIn opening before) :
    bracketedFrom (opening.map (·.read before)) (Cursor.start.beyond before) rest =
      pairUp opening (liveFrom before rest) := by
  induction rest using escape_induction generalizing before opening with
  | nil =>
      cases opening with
      | none => rfl
      | some mark => rfl
  | lone =>
      -- This backslash leaves the text open, but no bracket comes after it.
      rw [bracketedFrom_lone, liveFrom_of_ne (by decide) (by decide)]
      cases opening with
      | none => rfl
      | some mark => rfl
  | escaped c rest ih =>
      have reached : before ++ ['\\', c] = before ++ ['\\'] ++ [c] := by simp
      have wholeAfter : Whole (before ++ ['\\'] ++ [c]) := reached ▸ whole.escape c
      rw [bracketedFrom_escaped, liveFrom_escaped whole, reached, within.push,
        (within.concat _).push, ← Cursor.beyond_concat, ← Cursor.beyond_concat,
        ih wholeAfter ((within.concat _).concat _)]
  | plain c rest plain ih =>
      have wholeAfter : Whole (before ++ [c]) := (whole_concat_iff whole c).2 plain
      by_cases opens : c = '['
      · subst opens
        rw [liveFrom_of_bracket whole (.inl rfl)]
        cases opening with
        | none =>
            have within : OpenIn (some ⟨before, '['⟩) (before ++ ['[']) := by
              rintro mark ⟨⟩
              simp
            have read := ih wholeAfter within
            rw [Option.map_some, Mark.read_concat, Cursor.beyond_concat] at read
            exact read
        | some mark => rfl
      · by_cases closes : c = ']'
        · subst closes
          rw [liveFrom_of_bracket whole (.inr rfl)]
          cases opening with
          | none => rfl
          | some mark =>
              have read := ih wholeAfter (openIn_none _)
              rw [Option.map_none, Cursor.beyond_concat] at read
              rw [Option.map_some, bracketedFrom_close, read]
              exact congrArg (Except.map · _)
                (congrArg List.cons (Mark.close_read mark ⟨before, ']'⟩))
        · rw [bracketedFrom_plain _ _ _ plain opens closes, liveFrom_of_ne opens closes,
            within.push, ← Cursor.beyond_concat, ih wholeAfter (within.concat c)]

/-! ## Balanced documents -/

/-- Opening and closing brackets by turns. -/
def alternation (count : Nat) : List Char := (List.replicate count ['[', ']']).flatten

/-- Brackets open and close units by turns, and close all of them. -/
def Balanced (marks : List Mark) : Prop := ∃ count, marks.map (·.bracket) = alternation count

/-- The units between successive brackets. -/
def unitsOf : List Mark → List Bracketed
  | opening :: closing :: later => opening.unit closing :: unitsOf later
  | _ => []

/-- The ways in which brackets break the order, and the errors for them. The brackets before the
one that breaks it open and close by turns. -/
inductive Broken : List Mark → BracketError → Prop
  | nested {units later : List Mark} {opening mark : Mark} (balanced : Balanced units)
      (opens : opening.bracket = '[') (again : mark.bracket = '[') :
      Broken (units ++ opening :: mark :: later) (.at (.nested opening.place.line) mark.place)
  | unopened {units later : List Mark} {mark : Mark} (balanced : Balanced units)
      (closes : mark.bracket = ']') :
      Broken (units ++ mark :: later) (.at .unopened mark.place)
  | unclosed {units : List Mark} {opening : Mark} (balanced : Balanced units)
      (opens : opening.bracket = '[') :
      Broken (units ++ [opening]) (.at .unclosed opening.place)

theorem balanced_nil : Balanced [] := ⟨0, rfl⟩

theorem Balanced.pair {marks : List Mark} (balanced : Balanced marks) {opening closing : Mark}
    (opens : opening.bracket = '[') (closes : closing.bracket = ']') :
    Balanced (opening :: closing :: marks) := by
  obtain ⟨count, brackets⟩ := balanced
  refine ⟨count + 1, ?_⟩
  simp [opens, closes, brackets, alternation, List.replicate_succ]

theorem Broken.pair {marks : List Mark} {error : BracketError} (broken : Broken marks error)
    {opening closing : Mark} (opens : opening.bracket = '[') (closes : closing.bracket = ']') :
    Broken (opening :: closing :: marks) error := by
  cases broken with
  | nested balanced first second => exact .nested (balanced.pair opens closes) first second
  | unopened balanced first => exact .unopened (balanced.pair opens closes) first
  | unclosed balanced first => exact .unclosed (balanced.pair opens closes) first

/-- Brackets are balanced, or there is a first one that breaks the order. -/
theorem balanced_or_broken :
    ∀ {marks : List Mark}, (∀ mark ∈ marks, mark.bracket = '[' ∨ mark.bracket = ']') →
      Balanced marks ∨ ∃ error, Broken marks error
  | [], _ => .inl balanced_nil
  | [mark], brackets => by
      rcases brackets mark (by simp) with opens | closes
      · exact .inr ⟨_, .unclosed balanced_nil opens⟩
      · exact .inr ⟨_, .unopened balanced_nil closes⟩
  | first :: second :: later, brackets => by
      rcases brackets first (by simp) with opens | closes
      · rcases brackets second (by simp) with again | closes
        · exact .inr ⟨_, .nested balanced_nil opens again⟩
        · have others : ∀ mark ∈ later, mark.bracket = '[' ∨ mark.bracket = ']' :=
            fun mark member => brackets mark (by simp [member])
          rcases balanced_or_broken others with balanced | ⟨error, broken⟩
          · exact .inl (balanced.pair opens closes)
          · exact .inr ⟨error, broken.pair opens closes⟩
      · exact .inr ⟨_, .unopened balanced_nil closes⟩

/-- Balanced brackets make units, and leave none open. -/
theorem pairUp_balanced_append {units : List Mark} (balanced : Balanced units)
    (later : List Mark) :
    pairUp none (units ++ later) = (pairUp none later).map (unitsOf units ++ ·) := by
  obtain ⟨count, brackets⟩ := balanced
  induction count generalizing units with
  | zero =>
      obtain rfl : units = [] := List.map_eq_nil_iff.1 brackets
      rw [List.nil_append]
      cases pairUp none later <;> rfl
  | succ count ih =>
      rw [alternation, List.replicate_succ, List.flatten_cons] at brackets
      obtain ⟨opening, rest, rfl, opens, brackets⟩ := List.map_eq_cons_iff.1 brackets
      obtain ⟨closing, rest, rfl, closes, brackets⟩ := List.map_eq_cons_iff.1 brackets
      have separate : ']' ≠ '[' := by decide
      simp only [List.cons_append, pairUp, opens, closes, if_true, if_neg separate, ih brackets]
      cases pairUp none later <;> rfl

theorem pairUp_of_balanced {marks : List Mark} (balanced : Balanced marks) :
    pairUp none marks = .ok (unitsOf marks) := by
  have all := pairUp_balanced_append balanced []
  rw [List.append_nil] at all
  rw [all, pairUp, Except.map, List.append_nil]

theorem pairUp_of_broken {marks : List Mark} {error : BracketError}
    (broken : Broken marks error) : pairUp none marks = .error error := by
  have separate : ']' ≠ '[' := by decide
  cases broken with
  | nested balanced opens again =>
      rw [pairUp_balanced_append balanced, pairUp, if_pos opens, pairUp, if_pos again]
      rfl
  | unopened balanced closes =>
      rw [pairUp_balanced_append balanced, pairUp, if_neg (closes ▸ separate)]
      rfl
  | unclosed balanced opens =>
      rw [pairUp_balanced_append balanced, pairUp, if_pos opens, pairUp]
      rfl

/-- The search finds units exactly in documents whose live brackets are balanced, namely the
stretches between successive live brackets. In every other document it reports the first live
bracket that breaks the order, or the last one if the document ends before it is closed. -/
theorem find_outcome (document : String) :
    (∀ units, Bracketed.find document = .ok units ↔
      Balanced (liveBrackets document) ∧ units = unitsOf (liveBrackets document)) ∧
    (∀ error, Bracketed.find document = .error error ↔
      Broken (liveBrackets document) error) := by
  have found : Bracketed.find document = pairUp none (liveBrackets document) :=
    bracketedFrom_eq_pairUp document.toList whole_nil (openIn_none [])
  have brackets : ∀ mark ∈ liveBrackets document, mark.bracket = '[' ∨ mark.bracket = ']' :=
    fun mark live => bracket_of_mem_liveFrom live
  rw [found]
  constructor
  · intro units
    constructor
    · intro paired
      rcases balanced_or_broken brackets with balanced | ⟨error, broken⟩
      · rw [pairUp_of_balanced balanced] at paired
        exact ⟨balanced, (Except.ok.inj paired).symm⟩
      · rw [pairUp_of_broken broken] at paired
        cases paired
    · rintro ⟨balanced, rfl⟩
      exact pairUp_of_balanced balanced
  · intro error
    constructor
    · intro failed
      rcases balanced_or_broken brackets with balanced | ⟨other, broken⟩
      · rw [pairUp_of_balanced balanced] at failed
        cases failed
      · rw [pairUp_of_broken broken] at failed
        cases failed
        exact broken
    · exact pairUp_of_broken

/-- One backslash before a bracket escapes it, and two of them do not. -/
example : liveBrackets "\\[[\\\\]" = [⟨['\\', '['], '['⟩, ⟨['\\', '[', '[', '\\', '\\'], ']'⟩] := by
  decide +kernel

end FigureMarkup.Markup
