import FigureMarkup.Proofs.Markup.Lexemes
import FigureMarkup.Proofs.Markup.Sentences

/-!
# Reading units

Reading a unit gives the declaration that its tokens form, if they form a sentence. If characters
form no token, these and nothing else are reported. Otherwise there is one error, at the first
token that does not go on as a sentence, or at the end of the content where the value of a keyword
is missing. The span of that last error runs backward over the separators after the equals sign.
-/

namespace FigureMarkup.Markup

open Text

/-- The tokens among lexemes, with their places. -/
def placedTokens (lexemes : List Lexeme) : List PlacedToken :=
  lexemes.filterMap fun lexeme => lexeme.token.map (·, lexeme.span)

/-- The error for a fault at a place in the content of a unit. -/
def Bracketed.error (unit : Bracketed) (fault : SyntaxFault) (place : Span) : ParseError :=
  .grammar ⟨fault, place.shift unit.contentOffset, unit.line⟩

/-- The error for characters that form no token. -/
def Bracketed.unrecognized (unit : Bracketed) (lexeme : Lexeme) : ParseError :=
  unit.error (.unrecognized (String.ofList lexeme.text)) lexeme.span

/-- The errors for all characters of a unit that form no token, in order. -/
def Bracketed.allUnrecognized (unit : Bracketed) : List ParseError :=
  ((lex unit.content).filter (·.token.isNone)).map unit.unrecognized

theorem filterMap_unrecognized (unit : Bracketed) (lexemes : List Lexeme) :
    (lexemes.filterMap fun lexeme =>
      match lexeme.token with
      | some _ => none
      | none => some (unit.unrecognized lexeme)) =
      (lexemes.filter (·.token.isNone)).map unit.unrecognized := by
  induction lexemes with
  | nil => rfl
  | cons lexeme lexemes ih =>
      cases formed : lexeme.token with
      | some token => simp [formed, ih]
      | none => simp [formed, ih]

namespace Declaration

theorem ofBracketed_eq (unit : Bracketed) :
    ofBracketed unit =
      if unit.allUnrecognized.isEmpty then
        match kindAndItems (placedTokens (lex unit.content)) with
        | .ok (kind, items) => .ok (ofItems kind items unit.line unit.span)
        | .error (fault, place) =>
            .error [unit.error fault (place.getD (missingPlace (placedTokens (lex unit.content))
              (byteLength unit.content.toList)))]
      else
        .error unit.allUnrecognized := by
  rw [Bracketed.allUnrecognized, ← filterMap_unrecognized]
  rfl

theorem allUnrecognized_eq_nil_iff (unit : Bracketed) :
    unit.allUnrecognized = [] ↔ ∀ lexeme ∈ lex unit.content, lexeme.token ≠ none := by
  simp [Bracketed.allUnrecognized, List.filter_eq_nil_iff]

/-- If characters form no token, these are reported, and nothing else is. -/
theorem ofBracketed_of_unrecognized {unit : Bracketed}
    (unformed : ∃ lexeme ∈ lex unit.content, lexeme.token = none) :
    ofBracketed unit = .error unit.allUnrecognized := by
  obtain ⟨lexeme, member, unrecognized⟩ := unformed
  have nonempty : unit.allUnrecognized ≠ [] := by
    intro empty
    exact (allUnrecognized_eq_nil_iff unit).1 empty lexeme member unrecognized
  rw [ofBracketed_eq, if_neg (by simpa using nonempty)]

/-- If all characters form tokens, these are parsed. -/
theorem ofBracketed_of_recognized {unit : Bracketed}
    (formed : ∀ lexeme ∈ lex unit.content, lexeme.token ≠ none) :
    ofBracketed unit =
      match kindAndItems (placedTokens (lex unit.content)) with
      | .ok (kind, items) => .ok (ofItems kind items unit.line unit.span)
      | .error (fault, place) =>
          .error [unit.error fault (place.getD (missingPlace (placedTokens (lex unit.content))
            (byteLength unit.content.toList)))] := by
  rw [ofBracketed_eq, (allUnrecognized_eq_nil_iff unit).2 formed]
  rfl

/-- A unit whose tokens form a sentence declares what the sentence says. -/
theorem ofBracketed_of_sentence {unit : Bracketed}
    (formed : ∀ lexeme ∈ lex unit.content, lexeme.token ≠ none) {kind : String}
    {items : List Item}
    (sentence : Sentence ((placedTokens (lex unit.content)).map (·.1)) (kind, items)) :
    ofBracketed unit = .ok (ofItems kind items unit.line unit.span) := by
  have parsed : kindAndItems (placedTokens (lex unit.content)) = .ok (kind, items) :=
    ((reads_kindAndItems _).ok_iff Sentence.unique).2 sentence
  rw [ofBracketed_of_recognized formed, parsed]

end Declaration

/-! ## Missing tokens -/

/-- If all characters form tokens, the last token is the last lexeme. -/
theorem getLast?_placedTokens {lexemes : List Lexeme}
    (formed : ∀ lexeme ∈ lexemes, lexeme.token ≠ none) {last : Lexeme}
    (ends : lexemes.getLast? = some last) :
    ∃ token, last.token = some token ∧
      (placedTokens lexemes).getLast? = some (token, last.span) := by
  obtain ⟨earlier, rfl⟩ := List.getLast?_eq_some_iff.1 ends
  obtain ⟨token, found⟩ := Option.ne_none_iff_exists'.1 (formed last (by simp))
  refine ⟨token, found, ?_⟩
  simp [placedTokens, found]

/-- The error in a unit that is no sentence, and its place in the content. -/
inductive Misread (unit : Bracketed) : SyntaxFault → Span → Prop
  | misplaced {fault : SyntaxFault} {place : Span}
      (stops : Stops Sentence (placedTokens (lex unit.content)) (fault, some place)) :
      Misread unit fault place
  | empty (blank : ∀ c ∈ unit.content.toList, isSeparator c = true) :
      Misread unit .unexpectedEnd
        ⟨byteLength unit.content.toList, byteLength unit.content.toList⟩
  | dangling {text separators : List Char}
      (stops : Stops Sentence (placedTokens (lex unit.content)) (.unexpectedEnd, none))
      (parts : unit.content.toList = text ++ ['='] ++ separators)
      (all : ∀ c ∈ separators, isSeparator c = true) :
      Misread unit .unexpectedEnd
        ⟨byteLength unit.content.toList, byteLength unit.content.toList - byteLength separators⟩

theorem misread_missing {unit : Bracketed}
    (formed : ∀ lexeme ∈ lex unit.content, lexeme.token ≠ none)
    (stops : Stops Sentence (placedTokens (lex unit.content)) (.unexpectedEnd, none)) :
    Misread unit .unexpectedEnd (Declaration.missingPlace (placedTokens (lex unit.content))
      (byteLength unit.content.toList)) := by
  rcases lexFrom_last 0 unit.content.toList with ⟨empty, blank⟩ |
    ⟨earlier, last, separators, parts, all, ends, place⟩
  · have tokens : placedTokens (lex unit.content) = [] := by rw [lex, empty]; rfl
    rw [tokens]
    exact .empty blank
  · obtain ⟨token, found, final⟩ := getLast?_placedTokens formed ends
    have equals : token = .equals := stops.of_missing.2 _ final
    have sign : last.text = ['='] :=
      text_of_mem_lexFrom (List.mem_of_getLast? ends) (equals ▸ found)
    rw [sign] at parts place
    have stop : byteLength unit.content.toList - byteLength separators = last.span.stop := by
      rw [parts, place, byteLength_append _ separators, Nat.add_sub_cancel]
      exact (Nat.zero_add _).symm
    have missing := Misread.dangling stops parts all
    rw [stop] at missing
    rw [Declaration.missingPlace, final]
    exact missing

/-! ## Outcomes -/

/-- If characters of a unit form no token, reading it reports these in order and nothing else.
Otherwise reading succeeds exactly if the tokens form a sentence, the declaration says what the
sentence does, and in every other unit there is one error, where the tokens stop being the beginning
of a sentence. -/
theorem ofBracketed_outcome (unit : Bracketed) :
    ((∃ lexeme ∈ lex unit.content, lexeme.token = none) →
      Declaration.ofBracketed unit = .error unit.allUnrecognized) ∧
    ((∀ lexeme ∈ lex unit.content, lexeme.token ≠ none) →
      (∀ kind items, Sentence ((placedTokens (lex unit.content)).map (·.1)) (kind, items) →
        ∃ declaration, Declaration.ofBracketed unit = .ok declaration ∧
          declaration.line = unit.line ∧ declaration.span = unit.span ∧
          Declares kind items declaration) ∧
      ((¬ ∃ sentence, Sentence ((placedTokens (lex unit.content)).map (·.1)) sentence) →
        ∃ fault place, Misread unit fault place ∧
          Declaration.ofBracketed unit = .error [unit.error fault place])) := by
  refine ⟨Declaration.ofBracketed_of_unrecognized, fun formed => ⟨?_, ?_⟩⟩
  · intro kind items sentence
    refine ⟨_, Declaration.ofBracketed_of_sentence formed sentence, ?_, ?_,
      declares_ofItems _ _ _ _⟩
    · rw [Declaration.ofItems, Declaration.addKeywords_eq]
      rfl
    · rw [Declaration.ofItems, Declaration.addKeywords_eq]
      rfl
  · intro unread
    rw [Declaration.ofBracketed_of_recognized formed]
    have reads := reads_kindAndItems (placedTokens (lex unit.content))
    generalize kindAndItems (placedTokens (lex unit.content)) = result at reads
    cases reads with
    | accepted sentence => exact absurd ⟨_, sentence⟩ unread
    | @stopped misplaced stops =>
        obtain ⟨fault, place⟩ := misplaced
        refine ⟨fault, _, ?_, rfl⟩
        cases place with
        | some place => exact .misplaced stops
        | none =>
            obtain rfl : fault = .unexpectedEnd := stops.of_missing.1
            exact misread_missing formed stops

/-- The span of a missing value starts at the end of the content and stops before it. -/
example : Declaration.ofBracketed ⟨"point A x= ", ⟨0, 13⟩, 1⟩ =
    .error [.grammar ⟨.unexpectedEnd, ⟨12, 11⟩, 1⟩] := by
  decide +kernel

end FigureMarkup.Markup
