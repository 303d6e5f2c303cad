import FigureMarkup.Text.Span

/-!
# Places after text

A scan that reads some text goes on at a place which depends on that text only through its size and
its line breaks. The same holds of a document that gets text put in front of it: every place in it
moves by the size and the line breaks of that text.
-/

namespace FigureMarkup.Text

/-! ## Sizes -/

theorem foldl_utf8Size (size : Nat) (text : List Char) :
    text.foldl (fun size c => size + c.utf8Size) size = size + byteLength text := by
  induction text generalizing size with
  | nil => rfl
  | cons c rest ih =>
      have shifted := ih (0 + c.utf8Size)
      rw [byteLength, List.foldl_cons, List.foldl_cons, ih, shifted]
      omega

@[simp]
theorem byteLength_nil : byteLength [] = 0 := rfl

@[simp]
theorem byteLength_cons (c : Char) (rest : List Char) :
    byteLength (c :: rest) = c.utf8Size + byteLength rest := by
  rw [byteLength, List.foldl_cons, foldl_utf8Size, Nat.zero_add]

@[simp]
theorem byteLength_append (first second : List Char) :
    byteLength (first ++ second) = byteLength first + byteLength second := by
  rw [byteLength, List.foldl_append, foldl_utf8Size]
  rfl

theorem byteLength_pos {text : List Char} (nonempty : text ≠ []) : 0 < byteLength text := by
  obtain ⟨c, rest, rfl⟩ := List.exists_cons_of_ne_nil nonempty
  rw [byteLength_cons]
  exact Nat.add_pos_left c.utf8Size_pos _

theorem byteLength_reverse (text : List Char) : byteLength text.reverse = byteLength text := by
  induction text with
  | nil => rfl
  | cons c rest ih => simp [ih, Nat.add_comm]

/-! ## Places -/

/-- The place that a scan reaches when it reads some text. It is also the place to which another
place moves when that text is put in front of its document. -/
def Cursor.beyond (here : Cursor) (text : List Char) : Cursor :=
  ⟨here.offset + byteLength text, here.line + text.count '\n'⟩

@[simp]
theorem Cursor.beyond_nil (here : Cursor) : here.beyond [] = here := rfl

theorem Cursor.beyond_cons (here : Cursor) (c : Char) (rest : List Char) :
    here.beyond (c :: rest) = (here.past c).beyond rest := by
  by_cases newline : c = '\n'
  · simp [beyond, past, newline, Nat.add_assoc, Nat.add_comm, Nat.add_left_comm]
  · simp [beyond, past, newline, Nat.add_assoc]

theorem Cursor.beyond_append (here : Cursor) (first second : List Char) :
    here.beyond (first ++ second) = (here.beyond first).beyond second := by
  simp [beyond, List.count_append, Nat.add_assoc]

theorem Cursor.beyond_concat (here : Cursor) (text : List Char) (c : Char) :
    here.beyond (text ++ [c]) = (here.beyond text).past c := by
  rw [beyond_append, beyond_cons, beyond_nil]

/-- To read a character and to put text in front of the document can be done in either order. -/
theorem Cursor.past_beyond (here : Cursor) (c : Char) (text : List Char) :
    (here.past c).beyond text = (here.beyond text).past c := by
  by_cases newline : c = '\n'
  · simp [beyond, past, newline, Nat.add_right_comm]
  · simp [beyond, past, newline, Nat.add_right_comm]

/-! ## Stretches -/

theorem dropBytes_cons {count : Nat} {c : Char} (fits : c.utf8Size ≤ count) (rest : List Char) :
    dropBytes count (c :: rest) = dropBytes (count - c.utf8Size) rest := by
  have wide := c.utf8Size_pos
  rw [dropBytes, if_pos fits]
  omega

theorem takeBytes_cons {count : Nat} {c : Char} (fits : c.utf8Size ≤ count) (rest : List Char) :
    takeBytes count (c :: rest) = (takeBytes (count - c.utf8Size) rest).map (c :: ·) := by
  have wide := c.utf8Size_pos
  rw [takeBytes, if_pos fits]
  omega

theorem dropBytes_append (first second : List Char) :
    dropBytes (byteLength first) (first ++ second) = some second := by
  induction first with
  | nil => simp [dropBytes]
  | cons c rest ih =>
      rw [byteLength_cons, List.cons_append, dropBytes_cons (Nat.le_add_right _ _),
        Nat.add_sub_cancel_left, ih]

theorem takeBytes_append (first second : List Char) :
    takeBytes (byteLength first) (first ++ second) = some first := by
  induction first with
  | nil => simp [takeBytes]
  | cons c rest ih =>
      rw [byteLength_cons, List.cons_append, takeBytes_cons (Nat.le_add_right _ _),
        Nat.add_sub_cancel_left, ih, Option.map_some]

/-- The stretch of a text behind some text and before some more. -/
theorem slice_append (first middle last : List Char) :
    slice (first ++ middle ++ last) ⟨byteLength first, byteLength (first ++ middle)⟩ =
      some middle := by
  have size : byteLength (first ++ middle) - byteLength first = byteLength middle := by
    rw [byteLength_append, Nat.add_sub_cancel_left]
  rw [slice, if_pos (by simp), List.append_assoc, dropBytes_append, Option.bind_some, size,
    takeBytes_append]

end FigureMarkup.Text
