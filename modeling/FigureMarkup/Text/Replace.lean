/-!
# Replacing parts of text

A replacement goes through text from left to right and exchanges every occurrence of a character,
or of two characters in a row. What was put in is not looked at again.
-/

namespace FigureMarkup.Text

def replaceChar (old : Char) (new text : List Char) : List Char :=
  text.flatMap fun c => if c = old then new else [c]

/-- Exchange every occurrence of two characters in a row for some text. -/
def replacePair (first second : Char) (new : List Char) : List Char → List Char
  | c :: d :: rest =>
      if c = first && d = second then new ++ replacePair first second new rest
      else c :: replacePair first second new (d :: rest)
  | text => text

/-- Escape the characters that have a meaning in XML, so that text stands for itself in elements
and in quoted attributes. The ampersand comes first, as all escapes start with it. -/
def escapeXmlChars (text : List Char) : List Char :=
  let text := replaceChar '&' ['&', 'a', 'm', 'p', ';'] text
  let text := replaceChar '<' ['&', 'l', 't', ';'] text
  let text := replaceChar '>' ['&', 'g', 't', ';'] text
  let text := replaceChar '"' ['&', 'q', 'u', 'o', 't', ';'] text
  replaceChar '\'' ['&', 'a', 'p', 'o', 's', ';'] text

def escapeXml (text : String) : String := String.ofList (escapeXmlChars text.toList)

end FigureMarkup.Text
