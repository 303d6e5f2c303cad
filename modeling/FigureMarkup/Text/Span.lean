/-!
# Places in text

Text is measured in the bytes of its UTF-8 form. A span names a stretch of text by the bytes
before its two ends, and a cursor follows a scan with the bytes and the line it has reached.
-/

namespace FigureMarkup.Text

structure Span where
  start : Nat
  stop : Nat
deriving DecidableEq, Repr, Inhabited

def Span.shift (span : Span) (distance : Nat) : Span :=
  ⟨span.start + distance, span.stop + distance⟩

def byteLength (text : List Char) : Nat := text.foldl (fun size c => size + c.utf8Size) 0

structure Cursor where
  offset : Nat
  /-- The line reached, counted from one. -/
  line : Nat
deriving DecidableEq, Repr, Inhabited

def Cursor.start : Cursor := ⟨0, 1⟩

def Cursor.past (here : Cursor) (c : Char) : Cursor :=
  ⟨here.offset + c.utf8Size, if c = '\n' then here.line + 1 else here.line⟩

/-- What is left of text after its first bytes, if these end where a character ends. -/
def dropBytes : Nat → List Char → Option (List Char)
  | 0, text => some text
  | _ + 1, [] => none
  | count, c :: rest => if c.utf8Size ≤ count then dropBytes (count - c.utf8Size) rest else none

/-- The characters in the first bytes of text, if these end where a character ends. -/
def takeBytes : Nat → List Char → Option (List Char)
  | 0, _ => some []
  | _ + 1, [] => none
  | count, c :: rest =>
      if c.utf8Size ≤ count then (takeBytes (count - c.utf8Size) rest).map (c :: ·) else none

/-- The characters in a span of text, if both its ends lie between characters. -/
def slice (text : List Char) (span : Span) : Option (List Char) :=
  if span.start ≤ span.stop then
    (dropBytes span.start text).bind (takeBytes (span.stop - span.start))
  else
    none

end FigureMarkup.Text
