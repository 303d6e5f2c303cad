import FigureMarkup.Text.Blank
import FigureMarkup.Text.Span

/-!
# Tokens of a unit

The content of a bracketed unit is a sequence of words, quoted strings and equals signs, parted
by spaces, tabs and line breaks. Within words and strings a backslash takes the meaning from the
character after it, unless that is a line break.
-/

namespace FigureMarkup.Markup

open Text

/-- Drop the backslash from every escape. A backslash at the very end is dropped too. -/
def unescapeChars : List Char → List Char
  | [] => []
  | ['\\'] => []
  | '\\' :: c :: rest => c :: unescapeChars rest
  | c :: rest => c :: unescapeChars rest

def unescape (text : String) : String := String.ofList (unescapeChars text.toList)

/-- One token of a unit. Words and strings hold their text without escapes. -/
inductive Token where
  | equals
  | word (text : String)
  | quoted (text : String)
deriving DecidableEq, Repr

def Token.describe : Token → String
  | .equals => "'='"
  | .word text => "word '" ++ text ++ "'"
  | .quoted text => "string \"" ++ text ++ "\""

/-- A stretch of content that is a token, or that no token accepts, and its place. -/
structure Lexeme where
  token : Option Token
  text : List Char
  span : Span
deriving DecidableEq, Repr

def isSeparator (c : Char) : Bool := c = ' ' || c = '\t' || c = '\r' || c = '\n'

/-- Decide whether a character belongs to a word without an escape. -/
def isWordChar (c : Char) : Bool := !isBlank c && c != '=' && c != '"' && c != '\\'

/-- Decide whether a character belongs to a quoted string without an escape. -/
def isQuotedChar (c : Char) : Bool := c != '"' && c != '\\'

/-- Part the longest beginning of a text that consists of plain characters and of escapes of
anything but line breaks from what follows it. -/
def spanEscaped (plain : Char → Bool) : List Char → List Char × List Char
  | [] => ([], [])
  | ['\\'] => ([], ['\\'])
  | '\\' :: c :: rest =>
      if c = '\n' then
        ([], '\\' :: c :: rest)
      else
        let (taken, left) := spanEscaped plain rest
        ('\\' :: c :: taken, left)
  | c :: rest =>
      if plain c then
        let (taken, left) := spanEscaped plain rest
        (c :: taken, left)
      else
        ([], c :: rest)

theorem spanEscaped_append (plain : Char → Bool) (text : List Char) :
    (spanEscaped plain text).1 ++ (spanEscaped plain text).2 = text := by
  fun_induction spanEscaped plain text <;> simp_all

/-- The token at the start of content that starts with the given character, which parts no
tokens: the token, its characters, and what follows. -/
def nextToken (c : Char) (rest : List Char) : Option Token × List Char × List Char :=
  if c = '=' then
    (some .equals, [c], rest)
  else if c = '"' then
    match spanEscaped isQuotedChar rest with
    | (inner, '"' :: left) =>
        (some (.quoted (String.ofList (unescapeChars inner))), c :: (inner ++ ['"']), left)
    | (inner, left) => (none, c :: inner, left)
  else
    match spanEscaped isWordChar (c :: rest) with
    | ([], _) => (none, [c], rest)
    | (word, left) => (some (.word (String.ofList (unescapeChars word))), word, left)

theorem nextToken_append (c : Char) (rest : List Char) :
    (nextToken c rest).2.1 ++ (nextToken c rest).2.2 = c :: rest := by
  have quoted := spanEscaped_append isQuotedChar rest
  have word := spanEscaped_append isWordChar (c :: rest)
  unfold nextToken
  split
  · rfl
  · split
    · split <;> simp_all
    · split <;> simp_all

theorem nextToken_ne_nil (c : Char) (rest : List Char) : (nextToken c rest).2.1 ≠ [] := by
  unfold nextToken
  split
  · simp
  · split
    · split <;> simp
    · rcases spanEscaped isWordChar (c :: rest) with ⟨_ | ⟨first, word⟩, left⟩ <;> simp

theorem length_nextToken_lt (c : Char) (rest : List Char) :
    (nextToken c rest).2.2.length < (c :: rest).length := by
  have whole := congrArg List.length (nextToken_append c rest)
  have nonempty := List.length_pos_iff.2 (nextToken_ne_nil c rest)
  simp only [List.length_append] at whole
  omega

/-- Divide content, the first character of which stands at a byte offset, into lexemes. -/
def lexFrom (offset : Nat) : (content : List Char) → List Lexeme
  | [] => []
  | c :: rest =>
      if isSeparator c then
        lexFrom (offset + c.utf8Size) rest
      else
        let next := nextToken c rest
        let stop := offset + byteLength next.2.1
        ⟨next.1, next.2.1, ⟨offset, stop⟩⟩ :: lexFrom stop next.2.2
termination_by content => content.length
decreasing_by
  · simp
  · exact length_nextToken_lt c rest

/-- Divide the content of a unit into lexemes, in order. -/
def lex (content : String) : List Lexeme := lexFrom 0 content.toList

end FigureMarkup.Markup
