import FigureMarkup.Text.CaseTable

/-!
# Lower-casing text

Text is lower-cased by the full Unicode mapping: each character goes to its lower-case letter,
`İ` becomes an `i` with a dot above, and a capital sigma at the end of a word takes its final
form. Next to it stands the mapping that touches only the letters of ASCII.
-/

namespace FigureMarkup.Text

/-- Decide whether a code point lies in one of some inclusive ranges. -/
def inRanges (ranges : List (Nat × Nat)) (code : Nat) : Bool :=
  ranges.any fun range => range.1 ≤ code && code ≤ range.2

/-- Decide whether a character has the Unicode property `Cased`. -/
def isCased (c : Char) : Bool := inRanges casedRanges c.toNat

/-- Decide whether a character has the Unicode property `Case_Ignorable`. -/
def isCaseIgnorable (c : Char) : Bool := inRanges caseIgnorableRanges c.toNat

/-- The lower-case form of one character without regard to its neighbours. -/
def lowerChar (c : Char) : List Char :=
  if c.toNat < 0x80 then
    [c.toLower]
  else if c = 'İ' then
    ['i', '\u0307']
  else
    match capitalRuns.find? (·.covers c.toNat) with
    | some run => [Char.ofNat (c.toNat + run.shift).toNat]
    | none => [c]

/-- Decide whether the first character that case does not ignore is a cased letter. -/
def startsCased (text : List Char) : Bool :=
  match text.dropWhile isCaseIgnorable with
  | [] => false
  | c :: _ => isCased c

/-- Lower-case the rest of a text. The characters before it stand in `before`, nearest first,
so that a sigma can tell whether a letter precedes it. -/
def lowerFrom (before : List Char) : List Char → List Char
  | [] => []
  | c :: rest =>
      let lowered :=
        if c = 'Σ' then
          if startsCased before && !startsCased rest then ['ς'] else ['σ']
        else
          lowerChar c
      lowered ++ lowerFrom (c :: before) rest

def lower (text : String) : String := String.ofList (lowerFrom [] text.toList)

/-- Lower-case the letters of ASCII and keep every other character. -/
def lowerAscii (text : String) : String := text.map Char.toLower

/-- Decide whether two texts differ at most in the case of ASCII letters. -/
def eqIgnoringAsciiCase (first second : String) : Bool := lowerAscii first == lowerAscii second

end FigureMarkup.Text
