import FigureMarkup.Proofs.Markup.ErrorPlaces
import FigureMarkup.Proofs.Markup.Writing

/-!
# Tokens and what stands between them

Each kind of token has a rule, and at every place that is no separator the longest match of the
rules is taken. So lexemes divide content: they stand in it one after the other, and all that is
left between them is separators. Characters that no rule matches are an unterminated string, blanks
that do not separate, or a backslash before a line break. In the content of a unit no backslash
stands at the end, since it would have escaped the bracket that closes the unit.
-/

namespace FigureMarkup.Markup

open Text

/-! ## Runs of plain characters and escapes -/

/-- Text that consists of plain characters and of escapes of anything but line breaks. -/
inductive EscapedRun (isPlain : Char → Bool) : List Char → Prop
  | nil : EscapedRun isPlain []
  | plain {c : Char} {rest : List Char} (unescaped : c ≠ '\\') (accepted : isPlain c = true)
      (others : EscapedRun isPlain rest) : EscapedRun isPlain (c :: rest)
  | escape {c : Char} {rest : List Char} (unbroken : c ≠ '\n')
      (others : EscapedRun isPlain rest) : EscapedRun isPlain ('\\' :: c :: rest)

/-- Text with which no run goes on. -/
inductive EndsRun (isPlain : Char → Bool) : List Char → Prop
  | nil : EndsRun isPlain []
  | lone : EndsRun isPlain ['\\']
  | lineBreak (rest : List Char) : EndsRun isPlain ('\\' :: '\n' :: rest)
  | other {c : Char} (unescaped : c ≠ '\\') (refused : isPlain c = false) (rest : List Char) :
      EndsRun isPlain (c :: rest)

section Runs

variable {isPlain : Char → Bool} {run left : List Char}

/-- A scan parts text into a run and what the run does not go on with. -/
theorem spanEscaped_parts (isPlain : Char → Bool) (text : List Char) :
    EscapedRun isPlain (spanEscaped isPlain text).1 ∧
      EndsRun isPlain (spanEscaped isPlain text).2 := by
  induction text using escape_induction with
  | nil => exact ⟨.nil, .nil⟩
  | lone => exact ⟨.nil, .lone⟩
  | escaped c rest ih =>
      by_cases broken : c = '\n'
      · rw [spanEscaped, if_pos broken, broken]
        exact ⟨.nil, .lineBreak rest⟩
      · rw [spanEscaped_escaped isPlain broken]
        exact ⟨.escape broken ih.1, ih.2⟩
  | plain c rest unescaped ih =>
      cases accepted : isPlain c with
      | true =>
          rw [spanEscaped_plain unescaped accepted]
          exact ⟨.plain unescaped accepted ih.1, ih.2⟩
      | false =>
          rw [spanEscaped_stop unescaped accepted]
          exact ⟨.nil, .other unescaped accepted rest⟩

/-- A scan reads a run to its end, and further if a run goes on there. -/
theorem EscapedRun.spanEscaped_append (escaped : EscapedRun isPlain run) (rest : List Char) :
    spanEscaped isPlain (run ++ rest) =
      (run ++ (spanEscaped isPlain rest).1, (spanEscaped isPlain rest).2) := by
  induction escaped with
  | nil => rfl
  | plain unescaped accepted _ ih =>
      rw [List.cons_append, spanEscaped_plain unescaped accepted, ih]
      rfl
  | escape unbroken _ ih =>
      rw [List.cons_append, List.cons_append, spanEscaped_escaped isPlain unbroken, ih]
      rfl

theorem EndsRun.spanEscaped_eq (ends : EndsRun isPlain left) :
    spanEscaped isPlain left = ([], left) := by
  cases ends with
  | nil => rfl
  | lone => rfl
  | lineBreak rest => rw [spanEscaped, if_pos rfl]
  | other unescaped refused rest => exact spanEscaped_stop unescaped refused rest

/-- Text falls into a run and the rest in one way only. -/
theorem EscapedRun.spanEscaped_eq (escaped : EscapedRun isPlain run)
    (ends : EndsRun isPlain left) : spanEscaped isPlain (run ++ left) = (run, left) := by
  rw [escaped.spanEscaped_append, ends.spanEscaped_eq, List.append_nil]

theorem EscapedRun.whole (escaped : EscapedRun isPlain run) : Whole run := by
  induction escaped with
  | nil => exact whole_nil
  | plain unescaped _ _ ih => exact (whole_plain_iff unescaped _).2 ih
  | escape _ _ ih => exact (whole_escaped_iff _ _).2 ih

theorem EscapedRun.unescapeChars_ne_nil (escaped : EscapedRun isPlain run) (nonempty : run ≠ []) :
    unescapeChars run ≠ [] := by
  cases escaped with
  | nil => exact absurd rfl nonempty
  | plain unescaped =>
      rw [unescapeChars_cons_of_ne unescaped]
      exact List.cons_ne_nil _ _
  | escape =>
      rw [unescapeChars]
      exact List.cons_ne_nil _ _

end Runs

/-! ## The next token -/

theorem unescape_ofList (text : List Char) :
    unescape (String.ofList text) = String.ofList (unescapeChars text) := by
  rw [unescape, String.toList_ofList]

/-- What the next token of content can be, with its characters and what follows. -/
inductive Next (c : Char) (rest : List Char) : Option Token × List Char × List Char → Prop
  | equals (sign : c = '=') : Next c rest (some .equals, ['='], rest)
  | quoted {inner left : List Char} (mark : c = '"') (run : EscapedRun isQuotedChar inner)
      (parts : rest = inner ++ '"' :: left) :
      Next c rest (some (.quoted (unescape (String.ofList inner))), '"' :: (inner ++ ['"']), left)
  | unterminated {inner left : List Char} (mark : c = '"') (run : EscapedRun isQuotedChar inner)
      (ends : EndsRun isQuotedChar left) (unclosed : ∀ more, left ≠ '"' :: more)
      (parts : rest = inner ++ left) : Next c rest (none, '"' :: inner, left)
  | word {text left : List Char} (run : EscapedRun isWordChar text) (nonempty : text ≠ [])
      (ends : EndsRun isWordChar left) (parts : c :: rest = text ++ left) :
      Next c rest (some (.word (unescape (String.ofList text))), text, left)
  | single (unsigned : c ≠ '=') (unmarked : c ≠ '"') (ends : EndsRun isWordChar (c :: rest)) :
      Next c rest (none, [c], rest)

theorem next_nextToken (c : Char) (rest : List Char) : Next c rest (nextToken c rest) := by
  unfold nextToken
  split
  case isTrue sign =>
    rw [sign]
    exact .equals rfl
  case isFalse unsigned =>
    split
    case isTrue mark =>
      obtain ⟨run, ends⟩ := spanEscaped_parts isQuotedChar rest
      have parts := (spanEscaped_append isQuotedChar rest).symm
      rw [mark]
      split
      case h_1 inner left parted =>
        rw [parted] at run parts
        rw [← unescape_ofList]
        exact .quoted rfl run parts
      case h_2 inner left unclosed parted =>
        rw [parted] at run ends parts
        exact .unterminated rfl run ends (fun more closed => unclosed more closed) parts
    case isFalse unmarked =>
      obtain ⟨run, ends⟩ := spanEscaped_parts isWordChar (c :: rest)
      have parts := (spanEscaped_append isWordChar (c :: rest)).symm
      split
      case h_1 left parted =>
        rw [parted] at ends parts
        rw [List.nil_append] at parts
        exact .single unsigned unmarked (parts ▸ ends)
      case h_2 text left nonempty parted =>
        rw [parted] at run ends parts
        rw [← unescape_ofList]
        exact .word run (fun empty => nonempty empty) ends parts

/-! ## Rules -/

/-- The rules by which text is a token. -/
inductive Accepts : Token → List Char → Prop
  | equals : Accepts .equals ['=']
  | quoted {inner : List Char} (run : EscapedRun isQuotedChar inner) :
      Accepts (.quoted (unescape (String.ofList inner))) ('"' :: (inner ++ ['"']))
  | word {text : List Char} (run : EscapedRun isWordChar text) (nonempty : text ≠ []) :
      Accepts (.word (unescape (String.ofList text))) text

theorem Accepts.of_word {text : String} {found : List Char} (accepts : Accepts (.word text) found) :
    text = unescape (String.ofList found) ∧ text ≠ "" := by
  cases accepts with
  | word run nonempty =>
      refine ⟨rfl, fun empty => run.unescapeChars_ne_nil nonempty ?_⟩
      rw [unescape_ofList] at empty
      simpa using congrArg String.toList empty

theorem Accepts.of_quoted {text : String} {found : List Char}
    (accepts : Accepts (.quoted text) found) :
    ∃ inner, found = '"' :: (inner ++ ['"']) ∧ text = unescape (String.ofList inner) := by
  cases accepts with
  | @quoted inner run => exact ⟨inner, rfl, rfl⟩

/-- Text before some more is the longest match of the rules, or no rule matches there. -/
structure LongestMatch (token : Option Token) (text later : List Char) : Prop where
  accepts : ∀ accepted ∈ token, Accepts accepted text
  longest : ∀ other found rest, Accepts other found → text ++ later = found ++ rest →
    token.isSome ∧ found.length ≤ text.length

/-- What a rule can match at the beginning of content. -/
theorem match_cases {token : Token} {found more rest : List Char} {c : Char}
    (accepts : Accepts token found) (begins : c :: rest = found ++ more) :
    (c = '=' ∧ found = ['=']) ∨
      (c = '"' ∧ ∃ inner, found = '"' :: (inner ++ ['"']) ∧
        spanEscaped isQuotedChar rest = (inner, '"' :: more)) ∨
      (found ≠ [] ∧ ∃ others, (spanEscaped isWordChar (c :: rest)).1 = found ++ others) := by
  cases accepts with
  | equals => exact .inl ⟨(List.cons.inj begins).1, rfl⟩
  | @quoted inner run =>
      obtain ⟨same, parts⟩ := List.cons.inj begins
      have parts : rest = inner ++ '"' :: more := by simpa using parts
      refine .inr (.inl ⟨same, inner, rfl, ?_⟩)
      rw [parts]
      exact run.spanEscaped_eq (.other (by decide) (by decide) more)
  | word run nonempty =>
      refine .inr (.inr ⟨nonempty, (spanEscaped isWordChar more).1, ?_⟩)
      rw [begins, run.spanEscaped_append]

theorem Next.accepts {c : Char} {rest text left : List Char} {token : Token}
    (next : Next c rest (some token, text, left)) : Accepts token text := by
  cases next with
  | equals => exact .equals
  | quoted _ run => exact .quoted run
  | word run nonempty => exact .word run nonempty

theorem Next.longest {c : Char} {rest text left : List Char} {token : Option Token}
    (next : Next c rest (token, text, left)) {other : Token} {found more : List Char}
    (accepts : Accepts other found) (begins : c :: rest = found ++ more) :
    token.isSome ∧ found.length ≤ text.length := by
  have wordless (refused : isWordChar c = false) (unescaped : c ≠ '\\') :
      ¬ (found ≠ [] ∧ ∃ others, (spanEscaped isWordChar (c :: rest)).1 = found ++ others) := by
    rintro ⟨filled, others, parts⟩
    rw [spanEscaped_stop unescaped refused] at parts
    exact filled (List.append_eq_nil_iff.1 parts.symm).1
  have cases := match_cases accepts begins
  cases next with
  | equals sign =>
      rcases cases with ⟨-, rfl⟩ | ⟨mark, -⟩ | word
      · exact ⟨rfl, Nat.le_refl _⟩
      · exact absurd (sign.symm.trans mark) (by decide)
      · exact absurd word (wordless (sign ▸ by decide) (sign ▸ by decide))
  | quoted mark run parts =>
      rcases cases with ⟨sign, -⟩ | ⟨-, inner, rfl, parted⟩ | word
      · exact absurd (sign.symm.trans mark) (by decide)
      · rw [parts, run.spanEscaped_eq (.other (by decide) (by decide) _)] at parted
        obtain ⟨rfl, -⟩ := Prod.mk.inj parted
        exact ⟨rfl, Nat.le_refl _⟩
      · exact absurd word (wordless (mark ▸ by decide) (mark ▸ by decide))
  | unterminated mark run ends unclosed parts =>
      rcases cases with ⟨sign, -⟩ | ⟨-, inner, rfl, parted⟩ | word
      · exact absurd (sign.symm.trans mark) (by decide)
      · rw [parts, run.spanEscaped_eq ends] at parted
        exact absurd (Prod.mk.inj parted).2 (unclosed more)
      · exact absurd word (wordless (mark ▸ by decide) (mark ▸ by decide))
  | word run nonempty ends parts =>
      have read : (spanEscaped isWordChar (c :: rest)).1 = text := by
        rw [parts, run.spanEscaped_eq ends]
      have lettered (refused : isWordChar c = false) (unescaped : c ≠ '\\') : False := by
        rw [spanEscaped_stop unescaped refused] at read
        exact nonempty read.symm
      rcases cases with ⟨sign, -⟩ | ⟨mark, -⟩ | ⟨-, others, found⟩
      · exact (lettered (sign ▸ by decide) (sign ▸ by decide)).elim
      · exact (lettered (mark ▸ by decide) (mark ▸ by decide)).elim
      · rw [read] at found
        rw [found, List.length_append]
        exact ⟨rfl, Nat.le_add_right _ _⟩
  | single unsigned unmarked ends =>
      rcases cases with ⟨sign, -⟩ | ⟨mark, -⟩ | ⟨filled, others, found⟩
      · exact absurd sign unsigned
      · exact absurd mark unmarked
      · rw [ends.spanEscaped_eq] at found
        exact absurd (List.append_eq_nil_iff.1 found.symm).1 filled

/-- The next token is the longest match of the rules, if any of them matches. -/
theorem Next.longestMatch {c : Char} {rest text left : List Char} {token : Option Token}
    (next : Next c rest (token, text, left)) (whole : text ++ left = c :: rest) :
    LongestMatch token text left := by
  refine ⟨?_, fun other found more accepts begins => ?_⟩
  · rintro accepted ⟨⟩
    exact next.accepts
  · exact next.longest accepts (whole.symm.trans begins)

/-! ## Characters of no token -/

/-- The ways in which characters before some more form no token. -/
inductive Unformed : List Char → List Char → Prop
  /-- A quotation mark and the run behind it, with which the content ends or a line break is
  escaped. No string stands there. -/
  | unterminated {inner later : List Char} (run : EscapedRun isQuotedChar inner)
      (ends : later = [] ∨ ∃ rest, later = '\\' :: '\n' :: rest)
      (unclosed : ∀ other rest, EscapedRun isQuotedChar other →
        inner ++ later ≠ other ++ '"' :: rest) :
      Unformed ('"' :: inner) later
  | backslash (rest : List Char) : Unformed ['\\'] ('\n' :: rest)
  | blank {c : Char} (blank : isBlank c = true) (other : isSeparator c = false)
      (later : List Char) : Unformed [c] later

theorem Next.unformed {c : Char} {rest text left : List Char}
    (next : Next c rest (none, text, left)) (whole : Whole (c :: rest))
    (other : isSeparator c = false) : Unformed text left := by
  cases next with
  | @unterminated inner _ mark run ends unclosed parts =>
      refine .unterminated run ?_ fun more rest alsoRun same => ?_
      · cases ends with
        | nil => exact .inl rfl
        | lineBreak rest => exact .inr ⟨rest, rfl⟩
        | lone =>
            rw [mark, whole_plain_iff (by decide), parts, run.whole.append_iff] at whole
            exact absurd whole (by decide)
        | other unescaped refused rest =>
            simp only [isQuotedChar, Bool.and_eq_false_iff, bne_eq_false_iff_eq] at refused
            obtain rfl | backslash := refused
            · exact absurd rfl (unclosed rest)
            · exact absurd backslash unescaped
      · have read := run.spanEscaped_eq ends
        rw [same, alsoRun.spanEscaped_eq (.other (by decide) (by decide) rest)] at read
        exact unclosed rest (Prod.mk.inj read).2.symm
  | single unsigned unmarked ends =>
      cases ends with
      | lone => exact absurd whole (by decide)
      | lineBreak rest => exact .backslash rest
      | other unescaped refused rest =>
          refine .blank ?_ other rest
          simpa [isWordChar, unsigned, unmarked, unescaped] using refused

/-- What follows a token of whole text is whole. -/
theorem Next.whole {c : Char} {rest text left : List Char} {token : Option Token}
    (next : Next c rest (token, text, left)) (whole : Whole (c :: rest)) : Whole left := by
  cases next with
  | equals sign => exact (whole_plain_iff (sign ▸ by decide) rest).1 whole
  | quoted mark run parts =>
      rw [mark, whole_plain_iff (by decide), parts, run.whole.append_iff,
        whole_plain_iff (by decide)] at whole
      exact whole
  | unterminated mark run ends unclosed parts =>
      rw [mark, whole_plain_iff (by decide), parts, run.whole.append_iff] at whole
      exact whole
  | word run nonempty ends parts =>
      rw [parts, run.whole.append_iff] at whole
      exact whole
  | single unsigned unmarked ends =>
      cases ends with
      | lone => exact absurd whole (by decide)
      | lineBreak rest =>
          rw [whole_escaped_iff] at whole
          exact (whole_plain_iff (by decide) rest).2 whole
      | other unescaped refused rest => exact (whole_plain_iff unescaped rest).1 whole

/-! ## Lexemes in content -/

theorem exists_next_of_mem {offset : Nat} {content : List Char} {lexeme : Lexeme}
    (member : lexeme ∈ lexFrom offset content) :
    ∃ before c rest later, content = before ++ lexeme.text ++ later ∧
      lexeme.span = ⟨offset + byteLength before, offset + byteLength (before ++ lexeme.text)⟩ ∧
      lexeme.text ++ later = c :: rest ∧ isSeparator c = false ∧
      Next c rest (lexeme.token, lexeme.text, later) ∧ (Whole content → Whole (c :: rest)) := by
  fun_induction lexFrom offset content with
  | case1 => cases member
  | case2 offset c rest separator ih =>
      obtain ⟨before, d, more, later, parts, place, begins, other, next, whole⟩ := ih member
      have unescaped : c ≠ '\\' := by
        rintro rfl
        exact absurd separator (by decide)
      refine ⟨c :: before, d, more, later, by rw [parts]; rfl, ?_, begins, other, next,
        fun all => whole ((whole_plain_iff unescaped rest).1 all)⟩
      rw [place]
      simp [Nat.add_assoc]
  | case3 offset c rest other next stop ih =>
      have whole : next.2.1 ++ next.2.2 = c :: rest := nextToken_append c rest
      have first : Next c rest (next.1, next.2.1, next.2.2) := next_nextToken c rest
      rcases List.mem_cons.1 member with rfl | among
      · exact ⟨[], c, rest, next.2.2, whole.symm, rfl, whole, by simpa using other, first, id⟩
      · obtain ⟨before, d, more, later, parts, place, begins, separate, read, wholeLater⟩ :=
          ih among
        refine ⟨next.2.1 ++ before, d, more, later, ?_, ?_, begins, separate, read,
          fun all => wholeLater (first.whole all)⟩
        · rw [← whole, parts]
          simp only [List.append_assoc]
        · rw [place]
          simp [stop, Nat.add_assoc]

/-- Every character that is no separator belongs to a lexeme. -/
theorem exists_mem_lexFrom {offset : Nat} {content before after : List Char} {c : Char}
    (stands : content = before ++ c :: after) (other : isSeparator c = false) :
    ∃ lexeme ∈ lexFrom offset content, lexeme.span.start ≤ offset + byteLength before ∧
      offset + byteLength (before ++ [c]) ≤ lexeme.span.stop := by
  fun_induction lexFrom offset content generalizing before with
  | case1 => simp at stands
  | case2 offset d rest separator ih =>
      cases before with
      | nil =>
          obtain ⟨rfl, -⟩ := List.cons.inj stands
          rw [separator] at other
          cases other
      | cons e before =>
          obtain ⟨rfl, parts⟩ := List.cons.inj stands
          obtain ⟨lexeme, member, starts, stops⟩ := ih parts
          refine ⟨lexeme, member, ?_, ?_⟩
          · simpa [Nat.add_assoc] using starts
          · simpa [Nat.add_assoc] using stops
  | @case3 offset d rest separate next stop ih =>
      have whole : next.2.1 ++ next.2.2 = before ++ c :: after :=
        (nextToken_append d rest).trans stands
      rcases List.append_eq_append_iff.1 whole with ⟨later, rfl, parts⟩ | ⟨inside, same, parts⟩
      · obtain ⟨lexeme, member, starts, stops⟩ := ih parts
        refine ⟨lexeme, List.mem_cons_of_mem _ member, ?_, ?_⟩
        · simpa [stop, Nat.add_assoc] using starts
        · simpa [stop, Nat.add_assoc] using stops
      · cases inside with
        | nil =>
            obtain ⟨lexeme, member, starts, stops⟩ := @ih [] (by simpa using parts.symm)
            refine ⟨lexeme, List.mem_cons_of_mem _ member, ?_, ?_⟩
            · simpa [stop, same] using starts
            · simpa [stop, same, Nat.add_assoc] using stops
        | cons e inside =>
            obtain ⟨rfl, -⟩ := List.cons.inj parts
            refine ⟨_, List.mem_cons_self, Nat.le_add_right _ _, ?_⟩
            simp [stop, same]

/-- Lexemes divide content: each one covers some of it, they stand one after the other, and what
they leave out are spaces, tabs and line breaks. -/
structure Tiles (content : List Char) (lexemes : List Lexeme) : Prop where
  covers : ∀ lexeme ∈ lexemes, Covers content lexeme.span lexeme.text
  nonempty : ∀ lexeme ∈ lexemes, lexeme.span.start < lexeme.span.stop
  apart : lexemes.Pairwise fun first second =>
    first.span.start < second.span.start ∧ first.span.stop ≤ second.span.start
  left : ∀ before c after, content = before ++ c :: after →
    (∀ lexeme ∈ lexemes,
      ¬ (lexeme.span.start ≤ byteLength before ∧ byteLength before < lexeme.span.stop)) →
    c = ' ' ∨ c = '\t' ∨ c = '\r' ∨ c = '\n'

theorem tiles_lex (content : String) : Tiles content.toList (lex content) := by
  have covers (lexeme : Lexeme) (member : lexeme ∈ lex content) :
      Covers content.toList lexeme.span lexeme.text := by
    obtain ⟨-, place, covers, moved⟩ := covers_lexFrom member
    rw [moved]
    exact covers
  have nonempty (lexeme : Lexeme) (member : lexeme ∈ lex content) :
      lexeme.span.start < lexeme.span.stop := by
    obtain ⟨before, after, -, place⟩ := covers lexeme member
    rw [place, byteLength_append]
    exact Nat.lt_add_of_pos_right (byteLength_pos (covers_lexFrom member).1)
  refine ⟨covers, nonempty, ?_, fun before c after stands outside => ?_⟩
  · refine (pairwise_lexFrom 0 content.toList).imp_of_mem fun {first second} member _ apart => ?_
    exact ⟨Nat.lt_of_lt_of_le (nonempty first member) apart, apart⟩
  · by_contra other
    have inside : isSeparator c = false := by simpa [isSeparator, not_or, and_assoc] using other
    obtain ⟨lexeme, member, starts, stops⟩ := @exists_mem_lexFrom 0 _ _ _ _ stands inside
    simp only [Nat.zero_add, byteLength_append, byteLength_cons, byteLength_nil] at starts stops
    have wide := c.utf8Size_pos
    exact outside lexeme member ⟨starts, by omega⟩

/-! ## Content of units -/

/-- Content that stands between the brackets of a unit of some document. -/
def IsUnitContent (content : String) : Prop :=
  ∃ document units, Bracketed.find document = .ok units ∧ ∃ unit ∈ units, unit.content = content

/-- The content of a unit ends with no backslash that escapes nothing, since it would have escaped
the closing bracket. -/
theorem IsUnitContent.whole {content : String} (inUnit : IsUnitContent content) :
    Whole content.toList := by
  obtain ⟨document, units, found, unit, member, rfl⟩ := inUnit
  obtain ⟨before, after, -, wholeBefore, wholeContent, -⟩ := (standsIn_of_find found).1 unit member
  rw [wholeBefore.append_iff, whole_plain_iff (by decide)] at wholeContent
  exact wholeContent

theorem Unformed.followed {text later : List Char} (unformed : Unformed text later)
    (backslash : text = ['\\']) : later ≠ [] := by
  cases unformed with
  | unterminated => simp at backslash
  | backslash => exact List.cons_ne_nil _ _
  | blank blank =>
      obtain ⟨rfl, -⟩ := List.cons.inj backslash
      exact absurd blank (by decide)

/-- Lexing divides content into tokens and errors, and takes the longest match of the rules at every
place. A word has the text of its characters without escapes, which is not empty, and a string that
of the characters between its quotation marks. In a unit of a document the errors are strings
without an end, backslashes before line breaks, and single blanks that are no separators. -/
theorem lex_tiles (content : String) :
    Tiles content.toList (lex content) ∧
      ∀ lexeme ∈ lex content, ∃ before later,
        content.toList = before ++ lexeme.text ++ later ∧
        lexeme.span = ⟨byteLength before, byteLength (before ++ lexeme.text)⟩ ∧
        slice content.toList lexeme.span = some lexeme.text ∧
        LongestMatch lexeme.token lexeme.text later ∧
        (∀ text, lexeme.token = some (.word text) →
          text = unescape (String.ofList lexeme.text) ∧ text ≠ "") ∧
        (∀ text, lexeme.token = some (.quoted text) → ∃ inner,
          lexeme.text = '"' :: (inner ++ ['"']) ∧ text = unescape (String.ofList inner)) ∧
        (IsUnitContent content → lexeme.token = none →
          Unformed lexeme.text later ∧ (lexeme.text = ['\\'] → later ≠ [])) := by
  refine ⟨tiles_lex content, fun lexeme member => ?_⟩
  obtain ⟨before, c, rest, later, parts, place, begins, other, next, whole⟩ :=
    exists_next_of_mem member
  simp only [Nat.zero_add] at place
  have longest := next.longestMatch begins
  refine ⟨before, later, parts, place, ?_, longest,
    fun text same => (longest.accepts _ same).of_word,
    fun text same => (longest.accepts _ same).of_quoted, ?_⟩
  · rw [parts, place, slice_append]
  · intro inUnit unread
    rw [unread] at next
    have unformed := next.unformed (whole inUnit.whole) other
    exact ⟨unformed, unformed.followed⟩

/-- The content of this unit has errors of all three kinds. -/
theorem lex_tiles_errors :
    IsUnitContent "A\\\n\u00a0\"b" ∧
      (lex "A\\\n\u00a0\"b").map (fun lexeme => (lexeme.token, lexeme.text)) =
        [(some (.word "A"), ['A']), (none, ['\\']), (none, ['\u00a0']), (none, ['"', 'b'])] ∧
      ∀ lexeme ∈ lex "A\\\n\u00a0\"b", lexeme.token = none →
        ∃ later, Unformed lexeme.text later := by
  have found : Bracketed.find "[A\\\n\u00a0\"b]" = .ok [⟨"A\\\n\u00a0\"b", ⟨0, 9⟩, 1⟩] := by
    decide +kernel
  have inUnit : IsUnitContent "A\\\n\u00a0\"b" := ⟨_, _, found, _, List.mem_singleton.2 rfl, rfl⟩
  refine ⟨inUnit, by decide +kernel, fun lexeme member unread => ?_⟩
  obtain ⟨-, later, -, -, -, -, -, -, errors⟩ :=
    (lex_tiles "A\\\n\u00a0\"b").2 lexeme member
  exact ⟨later, (errors inUnit unread).1⟩

end FigureMarkup.Markup
