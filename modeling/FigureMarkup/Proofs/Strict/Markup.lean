import FigureMarkup.Proofs.Markup.ErrorPlaces
import FigureMarkup.Proofs.Strict.Color

/-!
# Strict reading of documents

A reader cuts text from the document: the content of a unit from between its brackets, the text of
a quoted string from between its quotation marks, and the characters of no token for a report. A
cut has no result if its ends are out of order or within a character. Brackets and quotation marks
are narrow, and both ends of every cut stand next to what the reader has met there. So reading a
document always has a result, which can be declarations or errors, and it is the usual one.
-/

namespace FigureMarkup.Strict

open Markup Text

/-! ## Units -/

/-- Find the units in the rest of a document, given the place at which a unit is open, if one is,
and the place reached. The content of a unit is cut from the document when the unit is closed. -/
def bracketedFrom (document : List Char) (opening : Option Cursor) (here : Cursor) :
    List Char → Option (Except BracketError (List Bracketed))
  | [] =>
      match opening with
      | none => some (.ok [])
      | some place => some (.error (.at .unclosed place))
  | '\\' :: c :: rest => bracketedFrom document opening ((here.past '\\').past c) rest
  | '[' :: rest =>
      match opening with
      | none => bracketedFrom document (some here) (here.past '[') rest
      | some place => some (.error (.at (.nested place.line) here))
  | ']' :: rest =>
      match opening with
      | none => some (.error (.at .unopened here))
      | some place => do
          let content ← slice document ⟨place.offset + 1, here.offset⟩
          let later ← bracketedFrom document none (here.past ']') rest
          let unit : Bracketed :=
            ⟨String.ofList content, ⟨place.offset, here.offset + 1⟩, place.line⟩
          return later.map (unit :: ·)
  | c :: rest => bracketedFrom document opening (here.past c) rest

def find (document : String) : Option (Except BracketError (List Bracketed)) :=
  bracketedFrom document.toList none .start document.toList

section Units

variable (document : List Char) (opening : Option Cursor) (here : Cursor) (rest : List Char)

theorem bracketedFrom_escaped (c : Char) :
    bracketedFrom document opening here ('\\' :: c :: rest) =
      bracketedFrom document opening ((here.past '\\').past c) rest := by
  rw [bracketedFrom]

theorem bracketedFrom_lone :
    bracketedFrom document opening here ['\\'] =
      bracketedFrom document opening (here.past '\\') [] := by
  rw [bracketedFrom] <;> nofun

theorem bracketedFrom_plain {c : Char} (plain : c ≠ '\\') (unopened : c ≠ '[')
    (unclosed : c ≠ ']') :
    bracketedFrom document opening here (c :: rest) =
      bracketedFrom document opening (here.past c) rest := by
  rw [bracketedFrom]
  · intro d later backslash
    exact absurd backslash plain
  · exact unopened
  · exact unclosed

end Units

/-- The content that is read of an open unit stands right before the place reached, and before it
the bracket that opens the unit. -/
def ReadUpTo (opening : Option Opening) (before : List Char) : Prop :=
  ∀ unit, opening = some unit → ∃ earlier, unit.place.offset = byteLength earlier ∧
    before = earlier ++ '[' :: unit.content.reverse

theorem readUpTo_none (before : List Char) : ReadUpTo none before := by
  intro unit known
  cases known

theorem ReadUpTo.push {opening : Option Opening} {before : List Char}
    (read : ReadUpTo opening before) (c : Char) :
    ReadUpTo (opening.map (·.push c)) (before ++ [c]) := by
  intro unit pushed
  obtain ⟨old, known, rfl⟩ := Option.map_eq_some_iff.1 pushed
  obtain ⟨earlier, place, rfl⟩ := read old known
  exact ⟨earlier, place, by simp [Opening.push]⟩

/-- The content of a unit that is closed can be cut from the document. -/
theorem slice_of_readUpTo {unit : Opening} {before : List Char}
    (read : ReadUpTo (some unit) before) (rest : List Char) :
    slice (before ++ rest) ⟨unit.place.offset + 1, byteLength before⟩ =
      some unit.content.reverse := by
  obtain ⟨earlier, place, rfl⟩ := read unit rfl
  have opened : byteLength (earlier ++ ['[']) = unit.place.offset + 1 := by
    rw [place, byteLength_append]
    rfl
  have cut := slice_append (earlier ++ ['[']) unit.content.reverse rest
  rw [opened] at cut
  simpa using cut

theorem bracketedFrom_eq (rest : List Char) {before : List Char} {opening : Option Opening}
    (read : ReadUpTo opening before) {here : Cursor} (reached : here.offset = byteLength before) :
    bracketedFrom (before ++ rest) (opening.map Opening.place) here rest =
      some (Markup.bracketedFrom opening here rest) := by
  -- After one more character the same document is what stands before the rest, and the rest.
  have past (here : Cursor) {before : List Char} (reached : here.offset = byteLength before)
      (c : Char) : (here.past c).offset = byteLength (before ++ [c]) := by
    simp [Cursor.past, reached]
  induction rest using escape_induction generalizing before opening here with
  | nil => cases opening <;> rfl
  | lone =>
      rw [bracketedFrom_lone, Markup.bracketedFrom_lone]
      cases opening <;> rfl
  | escaped c rest ih =>
      have after := ih ((read.push '\\').push c) (past _ (past _ reached '\\') c)
      rw [bracketedFrom_escaped, Markup.bracketedFrom_escaped, ← after]
      simp [Function.comp_def, Opening.push]
  | plain c rest plain ih =>
      have split : before ++ c :: rest = before ++ [c] ++ rest := by simp
      by_cases opens : c = '['
      · subst opens
        cases opening with
        | none =>
            have fresh : ReadUpTo (some ⟨here, []⟩) (before ++ ['[']) := by
              rintro unit ⟨⟩
              exact ⟨before, reached, rfl⟩
            rw [split]
            exact ih fresh (past _ reached '[')
        | some unit => rfl
      · by_cases closes : c = ']'
        · subst closes
          cases opening with
          | none => rfl
          | some unit =>
              have after := ih (readUpTo_none _) (past _ reached ']')
              rw [Option.map_none] at after
              rw [Markup.bracketedFrom_close, Option.map_some, bracketedFrom, reached,
                slice_of_readUpTo read, split]
              dsimp only [Option.bind_eq_bind, Option.bind_some]
              rw [after]
              simp [Opening.close, reached]
        · rw [bracketedFrom_plain _ _ _ _ plain opens closes,
            Markup.bracketedFrom_plain _ _ _ plain opens closes,
            ← ih (read.push c) (past _ reached c), split]
          simp [Function.comp_def, Opening.push]

/-- Finding the units of a document always has a result, and it is the usual one. -/
theorem find_eq (document : String) : find document = some (Bracketed.find document) :=
  bracketedFrom_eq document.toList (readUpTo_none []) rfl

/-! ## Lexemes -/

/-- Read a lexeme. The text of a quoted string is cut from between its quotation marks. -/
def lexeme (lexeme : Lexeme) : Option Lexeme :=
  match lexeme.token with
  | some (.quoted _) => do
      let inner ← slice lexeme.text ⟨1, byteLength lexeme.text - 1⟩
      return { lexeme with token := some (.quoted (String.ofList (unescapeChars inner))) }
  | _ => some lexeme

def lex (content : String) : Option (List Lexeme) := (Markup.lex content).mapM lexeme

/-- A quoted string stands between its quotation marks. -/
theorem quoted_of_nextToken {c : Char} {rest : List Char} {text : String}
    (quoted : (nextToken c rest).1 = some (.quoted text)) :
    ∃ inner, (nextToken c rest).2.1 = '"' :: (inner ++ ['"']) ∧
      text = String.ofList (unescapeChars inner) := by
  unfold nextToken at *
  split at quoted
  case isTrue => cases quoted
  case isFalse other =>
    split at quoted
    case isTrue mark =>
      rw [if_neg other, if_pos mark]
      split at quoted
      case h_1 inner left parted =>
        cases quoted
        rw [mark]
        exact ⟨inner, rfl, rfl⟩
      case h_2 => cases quoted
    case isFalse =>
      split at quoted <;> cases quoted

theorem quoted_of_mem_lexFrom {offset : Nat} {content : List Char} {lexeme : Lexeme}
    (member : lexeme ∈ lexFrom offset content) {text : String}
    (quoted : lexeme.token = some (.quoted text)) :
    ∃ inner, lexeme.text = '"' :: (inner ++ ['"']) ∧
      text = String.ofList (unescapeChars inner) := by
  obtain ⟨_, c, rest, -, rfl⟩ := exists_of_mem_lexFrom member
  exact quoted_of_nextToken quoted

theorem lexeme_eq {content : String} {lexeme : Lexeme} (member : lexeme ∈ Markup.lex content) :
    Strict.lexeme lexeme = some lexeme := by
  unfold Strict.lexeme
  split
  case h_1 quoted =>
    obtain ⟨inner, text, rfl⟩ := quoted_of_mem_lexFrom member quoted
    have narrow : byteLength ['"'] = 1 := by decide
    have cut := slice_append ['"'] inner ['"']
    rw [byteLength_append, narrow] at cut
    have size : byteLength lexeme.text - 1 = 1 + byteLength inner := by
      rw [text, ← List.singleton_append, byteLength_append, byteLength_append, narrow]
      omega
    have whole : slice lexeme.text ⟨1, byteLength lexeme.text - 1⟩ = some inner := by
      rw [size, text]
      exact cut
    rw [whole]
    exact congrArg some (congrArg (Lexeme.mk · lexeme.text lexeme.span) quoted.symm)
  case h_2 => rfl

theorem lex_eq (content : String) : lex content = some (Markup.lex content) := by
  rw [lex, mapM_eq fun lexeme member => lexeme_eq member, List.map_id']

/-! ## Declarations -/

/-- The error for characters that form no token, which are cut from the content of the unit. -/
def unrecognized (bracketed : Bracketed) (lexeme : Lexeme) : Option ParseError := do
  let text ← slice bracketed.content.toList lexeme.span
  return bracketed.error (.unrecognized (String.ofList text)) lexeme.span

def ofBracketed (bracketed : Bracketed) : Option (Except (List ParseError) Declaration) := do
  let lexemes ← lex bracketed.content
  let unrecognized ← (lexemes.filter (·.token.isNone)).mapM (unrecognized bracketed)
  let tokens := placedTokens lexemes
  return if unrecognized.isEmpty then
      match kindAndItems tokens with
      | .ok (kind, items) => .ok (.ofItems kind items bracketed.line bracketed.span)
      | .error (fault, place) =>
          let missing := Declaration.missingPlace tokens (byteLength bracketed.content.toList)
          .error [bracketed.error fault (place.getD missing)]
    else
      .error unrecognized

def ofUnits : List Bracketed → Option (Except (List ParseError) (List Declaration))
  | [] => some (.ok [])
  | bracketed :: rest => do
      let first ← ofBracketed bracketed
      let others ← ofUnits rest
      return match first, others with
        | .ok declaration, .ok declarations => .ok (declaration :: declarations)
        | .ok _, .error errors => .error errors
        | .error errors, .ok _ => .error errors
        | .error errors, .error more => .error (errors ++ more)

def parse (document : String) : Option (Except (List ParseError) (List Declaration)) := do
  match ← find document with
  | .error error => return .error [.brackets error]
  | .ok units => ofUnits units

theorem unrecognized_eq {bracketed : Bracketed} {lexeme : Lexeme}
    (member : lexeme ∈ Markup.lex bracketed.content) :
    unrecognized bracketed lexeme = some (bracketed.unrecognized lexeme) := by
  obtain ⟨-, _, ⟨before, after, parts, rfl⟩, moved⟩ := covers_lexFrom member
  have place : lexeme.span = ⟨byteLength before, byteLength (before ++ lexeme.text)⟩ := moved
  have cut := slice_append before lexeme.text after
  rw [← parts, ← place] at cut
  rw [unrecognized, cut]
  rfl

theorem ofBracketed_eq (bracketed : Bracketed) :
    ofBracketed bracketed = some (Declaration.ofBracketed bracketed) := by
  rw [ofBracketed, lex_eq, Option.bind_eq_bind, Option.bind_some,
    mapM_eq fun lexeme member => unrecognized_eq (List.mem_of_mem_filter member),
    Declaration.ofBracketed_eq]
  rfl

theorem ofUnits_eq (units : List Bracketed) : ofUnits units = some (Declaration.ofUnits units) := by
  induction units with
  | nil => rfl
  | cons bracketed rest ih =>
      rw [ofUnits, ofBracketed_eq, ih, Declaration.ofUnits]
      cases Declaration.ofBracketed bracketed <;> cases Declaration.ofUnits rest <;> rfl

/-- Reading a document always has a result, and it is the usual one. -/
theorem parse_eq (document : String) : parse document = some (Declaration.parse document) := by
  rw [parse, find_eq, Declaration.parse]
  cases Bracketed.find document with
  | error error => rfl
  | ok units => exact ofUnits_eq units

end FigureMarkup.Strict
