import FigureMarkup.Proofs.Markup.Brackets
import FigureMarkup.Proofs.Markup.Writing

/-!
# Round trip

Records are written as one document, with prose before, between and after their units. The search
for units passes over the escaped texts and finds the units as they were written, and every unit is
read back as its record.
-/

namespace FigureMarkup.Markup

open Text

/-! ## Inert text -/

/-- Text that a search for units passes over: every bracket in it is escaped, and no backslash at
its end escapes what comes after it. -/
inductive Inert : List Char → Prop
  | nil : Inert []
  | escaped {rest : List Char} (c : Char) (later : Inert rest) : Inert ('\\' :: c :: rest)
  | plain {c : Char} {rest : List Char} (plain : c ≠ '\\') (unopened : c ≠ '[')
      (unclosed : c ≠ ']') (later : Inert rest) : Inert (c :: rest)

theorem Inert.append {first second : List Char} (inert : Inert first) (more : Inert second) :
    Inert (first ++ second) := by
  induction inert with
  | nil => exact more
  | escaped c later ih => exact .escaped c ih
  | plain plain unopened unclosed later ih => exact .plain plain unopened unclosed ih

theorem inert_escape {special : Char → Bool}
    (ordinary : ∀ c, special c = false → c ≠ '\\' ∧ c ≠ '[' ∧ c ≠ ']') (text : List Char) :
    Inert (escape special text) := by
  induction text with
  | nil => exact .nil
  | cons c rest ih =>
      rw [escape_cons]
      split
      case isTrue => exact .escaped c ih
      case isFalse unescaped =>
        obtain ⟨plain, unopened, unclosed⟩ := ordinary c (by simpa using unescaped)
        exact .plain plain unopened unclosed ih

theorem inert_prose (text : String) : Inert (writtenProse text) := by
  apply inert_escape
  intro c ordinary
  simpa [isProseSpecial, and_assoc] using ordinary

theorem inert_word (text : String) : Inert (writtenWord text) := by
  apply inert_escape
  intro c ordinary
  cases ordinary

theorem inert_string (text : String) : Inert (writtenString text) := by
  refine .plain (by decide) (by decide) (by decide) (.append ?_ ?_)
  · apply inert_escape
    intro c ordinary
    simp only [isStringSpecial, Bool.or_eq_false_iff, decide_eq_false_iff_not] at ordinary
    exact ⟨ordinary.1.1.2, ordinary.1.2, ordinary.2⟩
  · exact .plain (by decide) (by decide) (by decide) .nil

theorem inert_items (items : List Item) :
    Inert (items.flatMap fun item => ' ' :: writtenItem item) := by
  induction items with
  | nil => exact .nil
  | cons item items ih =>
      refine .plain (by decide) (by decide) (by decide) (.append ?_ ih)
      cases item with
      | bare text => exact inert_string text
      | keyword key value =>
          exact (inert_word key).append
            (.plain (by decide) (by decide) (by decide) (inert_string value))

theorem Record.inert_content (record : Record) : Inert record.content :=
  (inert_word record.kind).append (inert_items record.items)

/-! ## Finding units -/

/-- A unit that a search has opened, when it has read some more text. -/
def Opening.pushAll (opening : Opening) (text : List Char) : Opening :=
  { opening with content := text.reverse ++ opening.content }

theorem Opening.pushAll_push (opening : Opening) (c : Char) (text : List Char) :
    (opening.push c).pushAll text = opening.pushAll (c :: text) := by
  simp [pushAll, push]

theorem bracketedFrom_inert {text : List Char} (inert : Inert text) (opening : Option Opening)
    (here : Cursor) (rest : List Char) :
    bracketedFrom opening here (text ++ rest) =
      bracketedFrom (opening.map (·.pushAll text)) (here.beyond text) rest := by
  have pushed (opening : Option Opening) (c : Char) (text : List Char) :
      (opening.map (·.push c)).map (·.pushAll text) = opening.map (·.pushAll (c :: text)) := by
    cases opening with
    | none => rfl
    | some opening => exact congrArg some (opening.pushAll_push c text)
  induction inert generalizing opening here with
  | nil => cases opening <;> rfl
  | escaped c later ih =>
      rw [List.cons_append, List.cons_append, bracketedFrom_escaped, ih, pushed, pushed,
        ← Cursor.beyond_cons, ← Cursor.beyond_cons]
  | plain plain unopened unclosed later ih =>
      rw [List.cons_append, bracketedFrom_plain _ _ _ plain unopened unclosed, ih, pushed,
        ← Cursor.beyond_cons]

/-- The search finds the unit for a record as it was written. -/
theorem bracketedFrom_unit (record : Record) (before rest : List Char) :
    bracketedFrom none (Cursor.start.beyond before) (record.unit ++ rest) =
      (bracketedFrom none (Cursor.start.beyond (before ++ record.unit)) rest).map
        (record.bracketed before :: ·) := by
  have parts : record.unit ++ rest = '[' :: (record.content ++ ']' :: rest) := by
    simp [Record.unit]
  have reached : (((Cursor.start.beyond before).past '[').beyond record.content).past ']' =
      Cursor.start.beyond (before ++ record.unit) := by
    rw [Cursor.beyond_append, Record.unit, Cursor.beyond_cons, Cursor.beyond_concat]
  have closed : (Opening.pushAll ⟨Cursor.start.beyond before, []⟩ record.content).close
      (((Cursor.start.beyond before).past '[').beyond record.content) =
      record.bracketed before := by
    have last : ']'.utf8Size = 1 := rfl
    simp [Opening.close, Opening.pushAll, Record.bracketed, Record.unit, Cursor.beyond,
      Cursor.past, Cursor.start, last, Nat.add_assoc]
  rw [parts, bracketedFrom_open, bracketedFrom_inert record.inert_content, Option.map_some,
    bracketedFrom_close, reached, closed]

/-! ## Documents -/

/-- The units for records, each with prose after it. -/
def writtenUnits (units : List (Record × String)) : List Char :=
  units.flatMap fun unit => unit.1.unit ++ writtenProse unit.2

/-- The text before each of the units for records, if some text stands before the first. -/
def placed (before : List Char) : List (Record × String) → List (Record × List Char)
  | [] => []
  | (record, prose) :: later =>
      (record, before) :: placed (before ++ record.unit ++ writtenProse prose) later

theorem bracketedFrom_writtenUnits (before : List Char) (units : List (Record × String)) :
    bracketedFrom none (Cursor.start.beyond before) (writtenUnits units) =
      .ok ((placed before units).map fun unit => unit.1.bracketed unit.2) := by
  induction units generalizing before with
  | nil => rfl
  | cons unit units ih =>
      obtain ⟨record, prose⟩ := unit
      rw [writtenUnits, List.flatMap_cons, ← writtenUnits, List.append_assoc, bracketedFrom_unit,
        bracketedFrom_inert (inert_prose prose), Option.map_none, ← Cursor.beyond_append, ih]
      rfl

theorem ofUnits_bracketed (places : List (Record × List Char)) :
    Declaration.ofUnits (places.map fun unit => unit.1.bracketed unit.2) =
      .ok (places.map fun unit => unit.1.declaration unit.2) := by
  induction places with
  | nil => rfl
  | cons unit places ih =>
      simp only [List.map_cons, Declaration.ofUnits, Record.ofBracketed_bracketed, ih]

/-- A record with characters that need escapes in its kind, its keyword and its texts. -/
def Record.escaping : Record where
  kind := "p]"
  name := some "x\"y\n"
  arguments := [("é=", "[")]
  flags := ["\\"]
  kind_label := ⟨by decide, by decide, by decide +kernel⟩
  keys_label := by
    rintro argument (_ | ⟨_, ⟨⟩⟩)
    exact ⟨by decide, by decide, by decide +kernel⟩
  keys_other := by decide
  keys_single := by decide
  unnamed := nofun

/-- Records that are written as a document are read back from it, in order and at their places. -/
theorem parse_written (lead : String) (units : List (Record × String)) :
    Declaration.parse (String.ofList (writtenProse lead ++ writtenUnits units)) =
      .ok ((placed (writtenProse lead) units).map fun unit => unit.1.declaration unit.2) := by
  have found : Bracketed.find (String.ofList (writtenProse lead ++ writtenUnits units)) =
      .ok ((placed (writtenProse lead) units).map fun unit => unit.1.bracketed unit.2) := by
    rw [Bracketed.find, String.toList_ofList, bracketedFrom_inert (inert_prose lead)]
    exact bracketedFrom_writtenUnits (writtenProse lead) units
  rw [Declaration.parse, found]
  exact ofUnits_bracketed _

theorem parse_written_escaping :
    Declaration.parse
        "\\[\n[\\p\\] \"x\\\"y\n\" \\é\\==\"\\[\" \"\\\\\"]\\\\" =
      .ok [⟨"p]", some "x\"y\n", 2, ⟨3, 33⟩, [("é=", "[")], ["\\"]⟩] := by
  have document : String.ofList (writtenProse "[\n" ++ writtenUnits [(.escaping, "\\")]) =
      "\\[\n[\\p\\] \"x\\\"y\n\" \\é\\==\"\\[\" \"\\\\\"]\\\\" := by
    decide +kernel
  have read := parse_written "[\n" [(.escaping, "\\")]
  rw [document] at read
  rw [read]
  decide +kernel

end FigureMarkup.Markup
