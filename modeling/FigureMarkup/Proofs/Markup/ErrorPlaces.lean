import FigureMarkup.Proofs.Markup.Standing

/-!
# Places of errors

Errors say where they are in the document. An error of the brackets is at a live bracket, and any
other one is within the unit at fault and has its line. The errors of a document stand in it one
after the other. Their spans run forward, with one exception: where the value of a keyword is
missing and separators follow the equals sign, the span runs backward over these.
-/

namespace FigureMarkup.Text

/-! ## Stretches of text -/

/-- A span is that of a stretch of a text. -/
def Covers (text : List Char) (span : Span) (stretch : List Char) : Prop :=
  ∃ before after, text = before ++ stretch ++ after ∧
    span = ⟨byteLength before, byteLength (before ++ stretch)⟩

/-- A place in a text lies between two of its characters, or at one of its ends. -/
def BetweenCharacters (text : List Char) (offset : Nat) : Prop :=
  ∃ before after, text = before ++ after ∧ offset = byteLength before

theorem Covers.starts {text stretch : List Char} {span : Span} (covers : Covers text span stretch) :
    BetweenCharacters text span.start := by
  obtain ⟨before, after, parts, rfl⟩ := covers
  exact ⟨before, stretch ++ after, by rw [parts, List.append_assoc], rfl⟩

theorem Covers.stops {text stretch : List Char} {span : Span} (covers : Covers text span stretch) :
    BetweenCharacters text span.stop := by
  obtain ⟨before, after, parts, rfl⟩ := covers
  exact ⟨before ++ stretch, after, parts, rfl⟩

theorem Covers.ordered {text stretch : List Char} {span : Span}
    (covers : Covers text span stretch) : span.start ≤ span.stop := by
  obtain ⟨before, after, -, rfl⟩ := covers
  simp

theorem BetweenCharacters.le {text : List Char} {offset : Nat}
    (between : BetweenCharacters text offset) : offset ≤ byteLength text := by
  obtain ⟨before, after, rfl, rfl⟩ := between
  simp

end FigureMarkup.Text

namespace FigureMarkup.Markup

open Text

/-! ## Lexemes in order -/

theorem covers_lexFrom {offset : Nat} {content : List Char} {lexeme : Lexeme}
    (member : lexeme ∈ lexFrom offset content) :
    lexeme.text ≠ [] ∧ ∃ place, Covers content place lexeme.text ∧
      lexeme.span = place.shift offset := by
  obtain ⟨before, c, rest, rfl, rfl⟩ := exists_of_mem_lexFrom member
  refine ⟨nextToken_ne_nil c rest, _, ⟨before, (nextToken c rest).2.2, ?_, rfl⟩, ?_⟩
  · rw [List.append_assoc, nextToken_append]
  · simp [Span.shift, Nat.add_comm]

/-- Lexemes stand one after the other. -/
theorem pairwise_lexFrom (offset : Nat) (content : List Char) :
    (lexFrom offset content).Pairwise fun first second => first.span.stop ≤ second.span.start := by
  fun_induction lexFrom offset content with
  | case1 => exact .nil
  | case2 offset c rest separator ih => exact ih
  | case3 offset c rest other next stop ih =>
      refine .cons (fun later member => ?_) ih
      obtain ⟨-, place, -, moved⟩ := covers_lexFrom member
      rw [moved]
      exact Nat.le_add_left stop place.start

/-! ## Errors in a unit -/

/-- The value of a keyword is missing at the end of a unit, and separators follow the equals
sign. -/
def MissesValue (unit : Bracketed) (error : ParseError) : Prop :=
  ∃ text separators, unit.content.toList = text ++ ['='] ++ separators ∧ separators ≠ [] ∧
    (∀ c ∈ separators, isSeparator c = true) ∧
    error = unit.error .unexpectedEnd ⟨byteLength unit.content.toList,
      byteLength unit.content.toList - byteLength separators⟩

/-- An error is one of grammar in a unit, for a stretch of its content or for a missing value. -/
def ErrorIn (unit : Bracketed) (error : ParseError) : Prop :=
  (∃ fault place stretch, error = unit.error fault place ∧
    Covers unit.content.toList place stretch) ∨ MissesValue unit error

/-- An error stands before another one, and both do not overlap. -/
def ParseError.Precedes (first second : ParseError) : Prop :=
  first.span.start < second.span.start ∧ first.span.stop ≤ second.span.start

theorem errorIn_unrecognized {unit : Bracketed} {error : ParseError}
    (member : error ∈ unit.allUnrecognized) : ErrorIn unit error := by
  obtain ⟨lexeme, among, rfl⟩ := List.mem_map.1 member
  obtain ⟨-, place, covers, moved⟩ := covers_lexFrom (List.mem_of_mem_filter among)
  exact .inl ⟨_, place, lexeme.text, by rw [Bracketed.unrecognized, moved]; rfl, covers⟩

theorem pairwise_allUnrecognized (unit : Bracketed) :
    unit.allUnrecognized.Pairwise ParseError.Precedes := by
  rw [Bracketed.allUnrecognized, List.pairwise_map]
  have inOrder := (pairwise_lexFrom 0 unit.content.toList).filter (·.token.isNone)
  refine inOrder.imp_of_mem fun {first second} member _ before => ?_
  obtain ⟨nonempty, place, ⟨earlier, later, -, rfl⟩, moved⟩ :=
    covers_lexFrom (List.mem_of_mem_filter member)
  have wide := byteLength_pos nonempty
  rw [moved] at before
  simp only [Span.shift, byteLength_append] at before
  simp only [ParseError.Precedes, Bracketed.unrecognized, Bracketed.error, ParseError.span, moved,
    Span.shift, byteLength_append]
  omega

theorem errorIn_of_misread {unit : Bracketed} {fault : SyntaxFault} {place : Span}
    (misread : Misread unit fault place) : ErrorIn unit (unit.error fault place) := by
  cases misread with
  | misplaced stops =>
      generalize tokens : placedTokens (lex unit.content) = placed at stops
      cases stops with
      | @misplaced good later token place mayEnd viable stuck ends =>
          have among : (token, place) ∈ placedTokens (lex unit.content) := by simp [tokens]
          obtain ⟨lexeme, member, formed⟩ := List.mem_filterMap.1 among
          obtain ⟨-, span, covers, moved⟩ := covers_lexFrom member
          have same : lexeme.span = place := by
            obtain ⟨_, -, paired⟩ := Option.map_eq_some_iff.1 formed
            exact congrArg Prod.snd paired
          exact .inl ⟨_, span, lexeme.text, by rw [← same, moved]; rfl, covers⟩
  | empty blank =>
      exact .inl ⟨_, _, [], rfl, unit.content.toList, [], by simp, by simp⟩
  | @dangling text separators stops parts all =>
      by_cases empty : separators = []
      · subst empty
        exact .inl ⟨_, _, [], rfl, unit.content.toList, [], by simp, by simp⟩
      · exact .inr ⟨text, separators, parts, empty, all, rfl⟩

/-- A unit that cannot be read has errors, all of them in it and one after the other. -/
theorem errors_of_ofBracketed {unit : Bracketed} {errors : List ParseError}
    (unread : Declaration.ofBracketed unit = .error errors) :
    errors ≠ [] ∧ (∀ error ∈ errors, ErrorIn unit error) ∧
      errors.Pairwise ParseError.Precedes := by
  obtain ⟨unformed, formed⟩ := ofBracketed_outcome unit
  by_cases broken : ∃ lexeme ∈ lex unit.content, lexeme.token = none
  · obtain rfl := Except.error.inj ((unformed broken).symm.trans unread)
    obtain ⟨lexeme, member, untold⟩ := broken
    refine ⟨fun empty => ?_, fun error => errorIn_unrecognized, pairwise_allUnrecognized unit⟩
    exact (Declaration.allUnrecognized_eq_nil_iff unit).1 empty lexeme member untold
  · push Not at broken
    obtain ⟨reads, stops⟩ := formed broken
    have wrong : ¬ ∃ sentence,
        Sentence ((placedTokens (lex unit.content)).map (·.1)) sentence := by
      rintro ⟨⟨kind, items⟩, sentence⟩
      obtain ⟨declaration, read, -⟩ := reads kind items sentence
      rw [read] at unread
      cases unread
    obtain ⟨fault, place, misread, alone⟩ := stops wrong
    obtain rfl := Except.error.inj (alone.symm.trans unread)
    simpa using errorIn_of_misread misread

/-! ## Errors of a document -/

/-- An error in a unit has its line, and lies behind its opening bracket and not past its closing
one. The ends of the span lie between characters. They are in order unless a value is missing. -/
structure PlacedInUnit (document : List Char) (unit : Bracketed) (error : ParseError) : Prop where
  syntactic : ∃ fault place, error = unit.error fault place
  line : error.line = unit.line
  opens : unit.span.start < error.span.start
  closes : error.span.stop < unit.span.stop
  begins : error.span.start < unit.span.stop
  starts : BetweenCharacters document error.span.start
  stops : BetweenCharacters document error.span.stop
  ordered : error.span.start ≤ error.span.stop ∨ MissesValue unit error

/-- Both ends of an error lie between characters of the content of its unit. -/
theorem ErrorIn.ends {unit : Bracketed} {error : ParseError} (inUnit : ErrorIn unit error) :
    ∃ fault place, error = unit.error fault place ∧
      BetweenCharacters unit.content.toList place.start ∧
      BetweenCharacters unit.content.toList place.stop ∧
      (place.start ≤ place.stop ∨ MissesValue unit error) := by
  rcases inUnit with ⟨fault, place, stretch, rfl, covers⟩ | misses
  · exact ⟨fault, place, rfl, covers.starts, covers.stops, .inl covers.ordered⟩
  · obtain ⟨text, separators, content, -, -, rfl⟩ := id misses
    refine ⟨_, _, rfl, ⟨unit.content.toList, [], by simp, rfl⟩,
      ⟨text ++ ['='], separators, content, ?_⟩, .inr misses⟩
    rw [content, byteLength_append _ separators, Nat.add_sub_cancel]

theorem ErrorIn.placed {document : List Char} {unit : Bracketed} {error : ParseError}
    (inUnit : ErrorIn unit error) (stands : unit.StandsIn document) :
    PlacedInUnit document unit error := by
  obtain ⟨before, after, parts, -, -, span, -⟩ := stands
  obtain ⟨fault, place, same, starts, stops, ordered⟩ := inUnit.ends
  have narrow : '['.utf8Size = 1 := by decide
  have offset : unit.contentOffset = byteLength before + 1 := by
    rw [Bracketed.contentOffset, span]
  have stop : unit.span.stop = unit.contentOffset + byteLength unit.content.toList + 1 := by
    rw [offset, span]
    simp [narrow, Nat.add_assoc]
  -- A place in the content is one in the document, behind the bracket that opens the unit.
  have between {place : Nat} (inside : BetweenCharacters unit.content.toList place) :
      BetweenCharacters document (place + unit.contentOffset) := by
    obtain ⟨front, back, content, rfl⟩ := inside
    refine ⟨before ++ '[' :: front, back ++ ']' :: after, ?_, ?_⟩
    · rw [parts, content]
      simp
    · rw [offset, byteLength_append, byteLength_cons, narrow]
      omega
  have inside := starts.le
  have alsoInside := stops.le
  have start : unit.span.start < unit.contentOffset := Nat.lt_succ_self _
  have moved : error.span = place.shift unit.contentOffset := by rw [same]; rfl
  refine ⟨⟨fault, place, same⟩, by rw [same]; rfl, ?_, ?_, ?_, ?_, ?_, ?_⟩
  all_goals rw [moved]; simp only [Span.shift]
  · omega
  · omega
  · omega
  · exact between starts
  · exact between stops
  · exact ordered.imp_left fun ordered => by omega

/-- Errors of units that stand apart are one after the other. -/
theorem errors_of_ofUnits {document : List Char} {units : List Bracketed}
    {errors : List ParseError} (unread : Declaration.ofUnits units = .error errors)
    (stand : ∀ unit ∈ units, unit.StandsIn document)
    (apart : units.Pairwise fun first second => first.span.stop ≤ second.span.start) :
    errors ≠ [] ∧ (∀ error ∈ errors, ∃ unit ∈ units, PlacedInUnit document unit error) ∧
      errors.Pairwise ParseError.Precedes := by
  induction units generalizing errors with
  | nil => cases unread
  | cons unit units ih =>
      obtain ⟨behind, apart⟩ := List.pairwise_cons.1 apart
      have standLater : ∀ other ∈ units, other.StandsIn document :=
        fun other member => stand other (List.mem_cons_of_mem unit member)
      have placed {errors : List ParseError}
          (inUnit : ∀ error ∈ errors, ErrorIn unit error) (error : ParseError)
          (member : error ∈ errors) : PlacedInUnit document unit error :=
        (inUnit error member).placed (stand unit List.mem_cons_self)
      rw [Declaration.ofUnits] at unread
      rcases here : Declaration.ofBracketed unit with found | declaration <;>
        rcases later : Declaration.ofUnits units with others | declarations <;>
        simp only [here, later] at unread
      case ok.ok => cases unread
      case ok.error =>
        obtain rfl := Except.error.inj unread
        obtain ⟨nonempty, all, inOrder⟩ := ih later standLater apart
        refine ⟨nonempty, fun error member => ?_, inOrder⟩
        obtain ⟨other, among, place⟩ := all error member
        exact ⟨other, List.mem_cons_of_mem unit among, place⟩
      case error.ok =>
        obtain rfl := Except.error.inj unread
        obtain ⟨nonempty, inUnit, inOrder⟩ := errors_of_ofBracketed here
        exact ⟨nonempty,
          fun error member => ⟨unit, List.mem_cons_self, placed inUnit error member⟩, inOrder⟩
      case error.error =>
        obtain rfl := Except.error.inj unread
        obtain ⟨nonempty, inUnit, inOrder⟩ := errors_of_ofBracketed here
        obtain ⟨-, all, inOrderLater⟩ := ih later standLater apart
        refine ⟨List.append_ne_nil_of_left_ne_nil nonempty _, fun error member => ?_, ?_⟩
        · rcases List.mem_append.1 member with first | second
          · exact ⟨unit, List.mem_cons_self, placed inUnit error first⟩
          · obtain ⟨other, among, place⟩ := all error second
            exact ⟨other, List.mem_cons_of_mem unit among, place⟩
        · refine List.pairwise_append.2 ⟨inOrder, inOrderLater, fun first member second after => ?_⟩
          have one := placed inUnit first member
          obtain ⟨other, among, two⟩ := all second after
          have apart := behind other among
          have begins := one.begins
          have closes := one.closes
          have opens := two.opens
          exact ⟨by omega, by omega⟩

/-- An error of the brackets is at a live bracket, and has the line on which that stands. -/
def BracketError.AtBracket (document : List Char) (error : BracketError) : Prop :=
  ∃ mark : Mark, mark.StandsIn document ∧
    error.span = ⟨byteLength mark.before, byteLength mark.before + 1⟩ ∧
    error.line = 1 + mark.before.count '\n'

theorem atBracket_of_find {document : String} {error : BracketError}
    (failed : Bracketed.find document = .error error) : error.AtBracket document.toList := by
  have at_mark (fault : BracketFault) {mark : Mark} (live : mark ∈ liveBrackets document) :
      (BracketError.at fault mark.place).AtBracket document.toList :=
    ⟨mark, standsIn_of_mem_liveBrackets live, by simp [BracketError.at, Mark.place,
      Cursor.beyond, Cursor.start], rfl⟩
  have broken := ((find_outcome document).2 error).1 failed
  generalize marks : liveBrackets document = live at broken
  cases broken with
  | nested => exact at_mark _ (by simp [marks])
  | unopened => exact at_mark _ (by simp [marks])
  | unclosed => exact at_mark _ (by simp [marks])

/-- A document that cannot be read has one error at a bracket, or errors in its units, one after the
other. -/
theorem errors_of_parse {document : String} {errors : List ParseError}
    (unread : Declaration.parse document = .error errors) :
    (∃ error, errors = [.brackets error] ∧ error.AtBracket document.toList) ∨
      ∃ units, Bracketed.find document = .ok units ∧ errors ≠ [] ∧
        (∀ error ∈ errors, ∃ unit ∈ units, unit.StandsIn document.toList ∧
          PlacedInUnit document.toList unit error) ∧
        errors.Pairwise ParseError.Precedes := by
  unfold Declaration.parse at unread
  cases found : Bracketed.find document with
  | error error =>
      simp only [found] at unread
      cases unread
      exact .inl ⟨error, rfl, atBracket_of_find found⟩
  | ok units =>
      simp only [found] at unread
      obtain ⟨stand, apart⟩ := standsIn_of_find found
      obtain ⟨nonempty, all, inOrder⟩ := errors_of_ofUnits unread stand apart
      refine .inr ⟨units, rfl, nonempty, fun error member => ?_, inOrder⟩
      obtain ⟨unit, among, placed⟩ := all error member
      exact ⟨unit, among, stand unit among, placed⟩

end FigureMarkup.Markup
