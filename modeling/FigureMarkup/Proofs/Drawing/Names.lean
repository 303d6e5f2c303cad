import FigureMarkup.Proofs.AnnotatedText.Labels
import FigureMarkup.Drawing.Preview
import FigureMarkup.Proofs.Scene.Depiction
import FigureMarkup.Proofs.Text.XmlMarkup

/-!
# Names in written documents

Names stand in drawings as identifiers and labels, and in annotated text as what labels refer to and
say. They are escaped everywhere. So different names are written differently, and the markup of a
document is the same whatever names stand in it.
-/

namespace FigureMarkup

open Text

/-! ## Drawings -/

namespace Drawing

/-- An element with other names. -/
def Element.rename {α : Type} (ids labels : String → String) : Element α → Element α
  | .line id a b color => .line (id.map ids) a b color
  | .circle id center radius color => .circle (id.map ids) center radius color
  | .polygon id vertices color => .polygon (id.map ids) vertices color
  | .arc id start stop radius large color => .arc (id.map ids) start stop radius large color
  | .point id position color => .point (id.map ids) position color
  | .label text position => .label (labels text) position

/-- A drawing with other names. -/
def rename {α : Type} (ids labels : String → String) (drawing : Drawing α) : Drawing α :=
  { drawing with elements := drawing.elements.map (Element.rename ids labels) }

theorem sameMarkup_attr (name : String) {value other : String} (same : SameMarkup value other) :
    SameMarkup (attr name value) (attr name other) :=
  ((SameMarkup.refl _).append same).append (.refl _)

theorem sameMarkup_idAttribute (ids : String → String) (id : Option String) :
    SameMarkup (idAttribute id) (idAttribute (id.map ids)) := by
  cases id with
  | none => exact .refl _
  | some id => exact sameMarkup_attr "id" (.escapeXml id (ids id))

theorem emptyElement_eq (tag first second third : String) (others : List String) :
    emptyElement tag (first :: second :: third :: others) =
      "<" ++ tag ++ first ++ second ++ ("".intercalate (third :: others) ++ "/>") := by
  simp only [emptyElement, String.intercalate_cons_cons, String.append_empty, String.append_assoc]

theorem sameMarkup_emptyElement (tag : String) {first other : String}
    (same : SameMarkup first other) (second third : String) (others : List String) :
    SameMarkup (emptyElement tag (first :: second :: third :: others))
      (emptyElement tag (other :: second :: third :: others)) := by
  rw [emptyElement_eq, emptyElement_eq]
  exact (((SameMarkup.refl _).append same).append (.refl _)).append (.refl _)

theorem Element.sameMarkup_render (settings : Settings Float) (ids labels : String → String)
    (element : Element Float) :
    SameMarkup (element.render settings) ((element.rename ids labels).render settings) := by
  cases element with
  | line id => exact sameMarkup_emptyElement "line" (sameMarkup_idAttribute ids id) _ _ _
  | circle id => exact sameMarkup_emptyElement "circle" (sameMarkup_idAttribute ids id) _ _ _
  | polygon id => exact sameMarkup_emptyElement "polygon" (sameMarkup_idAttribute ids id) _ _ _
  | arc id => exact sameMarkup_emptyElement "path" (sameMarkup_idAttribute ids id) _ _ _
  | point id => exact sameMarkup_emptyElement "circle" (sameMarkup_idAttribute ids id) _ _ _
  | label text =>
      exact ((SameMarkup.refl _).append (.escapeXml text (labels text))).append (.refl _)

/-- Names do not change the markup of a drawing. -/
theorem sameMarkup_render (ids labels : String → String) (drawing : Drawing Float) :
    SameMarkup drawing.render (drawing.rename ids labels).render := by
  have lines : SameMarkup
      ("".intercalate (drawing.elements.map fun element =>
        drawing.settings.indentation ++ element.render drawing.settings ++
          drawing.settings.lineEnd))
      ("".intercalate (drawing.elements.map fun element =>
        drawing.settings.indentation ++ (element.rename ids labels).render drawing.settings ++
          drawing.settings.lineEnd)) :=
    .intercalate_map _ fun element =>
      ((SameMarkup.refl _).append (element.sameMarkup_render _ ids labels)).append (.refl _)
  unfold render
  simp only [rename, List.map_map]
  exact ((SameMarkup.refl _).append lines).append (.refl _)

/-- Identifiers of different names, or of different kinds, are written differently. -/
theorem idAttribute_inj {first second : Figure.EntityKind} {name other : String}
    (same : idAttribute (some (first.name ++ "_" ++ name)) =
      idAttribute (some (second.name ++ "_" ++ other))) : first = second ∧ name = other := by
  have values :
      escapeXml (first.name ++ "_" ++ name) = escapeXml (second.name ++ "_" ++ other) := by
    have chars := congrArg String.toList same
    simp only [idAttribute, attr, String.toList_append, List.append_assoc] at chars
    have left := List.append_cancel_left (List.append_cancel_left (List.append_cancel_left chars))
    exact String.toList_inj.1 (List.append_cancel_right left)
  exact kind_name_inj (escapeXml_inj values)

end Drawing

/-! ## Annotated text -/

namespace AnnotatedText

/-- A part of annotated text with other names. -/
def Piece.rename (targets labels : String → String) : Piece → Piece
  | .prose text => .prose text
  | .step => .step
  | .reference target label => .reference (targets target) (labels label)

theorem sameMarkup_labelText (target other label more : String) :
    SameMarkup (labelText target label) (labelText other more) :=
  ((((SameMarkup.refl _).append (.escapeXml target other)).append (.refl _)).append
    (.escapeXml label more)).append (.refl _)

/-- Names do not change the markup of annotated text. -/
theorem sameMarkup_render (targets labels : String → String) (number : Nat)
    (pieces : List Piece) :
    SameMarkup (render number pieces)
      (render number (pieces.map (Piece.rename targets labels))) := by
  induction pieces generalizing number with
  | nil => exact .refl _
  | cons piece pieces ih =>
      cases piece with
      | prose text => exact (SameMarkup.refl _).append (ih number)
      | step => exact (SameMarkup.refl _).append (ih (number + 1))
      | reference target label =>
          rw [List.map_cons, Piece.rename, render_reference, render_reference]
          exact (sameMarkup_labelText target (targets target) label (labels label)).append
            (ih number)

/-- The text before the first of some character does not depend on what comes after it. -/
theorem append_cons_inj {c : Char} {first second later more : List Char} (absent : c ∉ first)
    (alsoAbsent : c ∉ second) (same : first ++ c :: later = second ++ c :: more) :
    first = second ∧ later = more := by
  rcases List.append_eq_append_iff.1 same with ⟨between, rfl, rest⟩ | ⟨between, rfl, rest⟩
  · cases between with
    | nil => simpa using rest
    | cons d between =>
        obtain rfl : c = d := (List.cons.inj rest).1
        simp at alsoAbsent
  · cases between with
    | nil => simpa [eq_comm] using rest
    | cons d between =>
        obtain rfl : c = d := (List.cons.inj rest).1
        simp at absent

/-- Two escaped texts can be read off, where an apostrophe ends the first of them. -/
theorem escaped_inj (start middle stop : String) {target other label more : String}
    (same : start ++ escapeXml target ++ ("'" ++ middle) ++ escapeXml label ++ stop =
      start ++ escapeXml other ++ ("'" ++ middle) ++ escapeXml more ++ stop) :
    target = other ∧ label = more := by
  have unquoted (text : String) : '\'' ∉ (escapeXml text).toList :=
    not_mem_escapeXml (by decide) text
  have quote : "'".toList = ['\''] := by decide
  have chars := congrArg String.toList same
  simp only [String.toList_append, List.append_assoc, quote, List.singleton_append] at chars
  obtain ⟨targets, rest⟩ := append_cons_inj (unquoted target) (unquoted other)
    (List.append_cancel_left chars)
  have labels := List.append_cancel_right (List.append_cancel_left rest)
  exact ⟨escapeXml_inj (String.toList_inj.1 targets), escapeXml_inj (String.toList_inj.1 labels)⟩

/-- What a label refers to and what it says can be read off its text. -/
theorem labelText_inj {target other label more : String}
    (same : labelText target label = labelText other more) : target = other ∧ label = more :=
  escaped_inj "<span name='text_" " class='GeoElement'>" "</span>" same

end AnnotatedText

/-! ## All names -/

/-- Escaping exchanges characters one by one, leaves no delimiter of markup and no ampersand but
that of an entity, can be undone, and does not move a reader. So different names are written
differently, and neither drawings nor annotated text have other markup for other names. -/
theorem names_escaped :
    (∀ text : String,
      (escapeXml text).toList = text.toList.flatMap xmlChar ∧
        (∀ c ∈ ['<', '>', '"', '\''], c ∉ (escapeXml text).toList) ∧
        (∀ before after, (escapeXml text).toList = before ++ '&' :: after →
          ∃ entity ∈ xmlEntities, entity <+: '&' :: after) ∧
        decodeXml (escapeXml text).toList = text.toList ∧
        ∀ place : XmlPlace, place.turns (escapeXml text).toList = [] ∧
          place.after (escapeXml text).toList = place) ∧
      (∀ (first second : Figure.EntityKind) (name other : String),
        Drawing.idAttribute (some (first.name ++ "_" ++ name)) =
            Drawing.idAttribute (some (second.name ++ "_" ++ other)) →
          first = second ∧ name = other) ∧
      (∀ target other label more, AnnotatedText.labelText target label =
          AnnotatedText.labelText other more → target = other ∧ label = more) ∧
      (∀ (drawing : Drawing Float) (ids labels : String → String),
        SameMarkup drawing.render (drawing.rename ids labels).render) ∧
      ∀ (number : Nat) (pieces : List AnnotatedText.Piece) (targets labels : String → String),
        SameMarkup (AnnotatedText.render number pieces)
          (AnnotatedText.render number (pieces.map (.rename targets labels))) := by
  refine ⟨fun text => ?_, fun _ _ _ _ => Drawing.idAttribute_inj,
    fun _ _ _ _ => AnnotatedText.labelText_inj,
    fun drawing ids labels => drawing.sameMarkup_render ids labels,
    fun number pieces targets labels =>
      AnnotatedText.sameMarkup_render targets labels number pieces⟩
  have chars : (escapeXml text).toList = escapeXmlChars text.toList := by
    rw [escapeXml, String.toList_ofList]
  refine ⟨chars.trans (escapeXmlChars_eq _), fun c delimits => not_mem_escapeXml delimits text, ?_,
    ?_, XmlPlace.rests_escapeXml text⟩
  · intro before after parts
    exact exists_entity_of_ampersand (chars.symm.trans parts)
  · exact decodeXml_escapeXml text

end FigureMarkup
