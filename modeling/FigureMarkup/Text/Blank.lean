/-!
# Blank characters

The characters with the Unicode property `White_Space`, and the two ways in which text is
divided at them: cutting them off both ends, and splitting into the words between them.
-/

namespace FigureMarkup.Text

/-- Decide whether a character has the Unicode property `White_Space`. -/
def isBlank (c : Char) : Bool :=
  let code := c.toNat
  (0x09 ≤ code && code ≤ 0x0D) || code == 0x20 || code == 0x85 || code == 0xA0 ||
    code == 0x1680 || (0x2000 ≤ code && code ≤ 0x200A) || code == 0x2028 || code == 0x2029 ||
    code == 0x202F || code == 0x205F || code == 0x3000

def trimLeft (text : List Char) : List Char := text.dropWhile isBlank

def trimRight (text : List Char) : List Char := (text.reverse.dropWhile isBlank).reverse

def trim (text : List Char) : List Char := trimRight (trimLeft text)

/-- The maximal stretches of text without blanks, in order, collecting one in `word` with its
last character first. -/
def wordsFrom (word : List Char) : List Char → List (List Char)
  | [] => if word.isEmpty then [] else [word.reverse]
  | c :: rest =>
      if isBlank c then
        if word.isEmpty then wordsFrom [] rest else word.reverse :: wordsFrom [] rest
      else
        wordsFrom (c :: word) rest

/-- The maximal stretches of text without blanks, in order. -/
def words (text : List Char) : List (List Char) := wordsFrom [] text

/-- Cut text at every occurrence of a separator, collecting one part in `part` with its last
character first. -/
def splitFrom (separator : Char) (part : List Char) : List Char → List (List Char)
  | [] => [part.reverse]
  | c :: rest =>
      if c = separator then part.reverse :: splitFrom separator [] rest
      else splitFrom separator (c :: part) rest

/-- Cut text at every occurrence of a separator. There is always one part more than there are
separators. -/
def split (separator : Char) (text : List Char) : List (List Char) := splitFrom separator [] text

end FigureMarkup.Text
