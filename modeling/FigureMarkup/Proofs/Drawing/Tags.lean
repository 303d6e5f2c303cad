import FigureMarkup.Proofs.Decimal.Characters
import FigureMarkup.Proofs.Drawing.Elements
import FigureMarkup.Proofs.Text.XmlElements

/-!
# Tags of written drawings

The text of a drawing is XML with one element for the whole, one for its styles, and one for each
element of the drawing, in their order. This takes values without quotation marks and styles without
tags. Numbers and colors are written so and identifiers are escaped, but the start of the names of
classes stands in the text as it is given.
-/

namespace FigureMarkup.Drawing

open Decimal Plane Text XmlReader

/-! ## Values -/

theorem unquoted_of_spells {text : String} (spells : numberStyle.Spells text) :
    '"' ∉ text.toList :=
  fun member => absurd (spells '"' member) (by decide)

theorem unquoted_number (x : Float) : '"' ∉ (number x).toList :=
  unquoted_of_spells (spells_render numberStyle x)

theorem unquoted_coordinate (x : Float) : '"' ∉ (coordinate x).toList :=
  unquoted_of_spells (spells_fixed numberStyle 2 x)

/-! ## Attributes -/

def attributeText : List (String × String) → String
  | [] => ""
  | (name, value) :: rest => attr name value ++ attributeText rest

theorem attributeText_append (first second : List (String × String)) :
    attributeText (first ++ second) = attributeText first ++ attributeText second := by
  induction first with
  | nil => simp [attributeText]
  | cons pair first ih => simp [attributeText, ih, String.append_assoc]

/-- An attribute can be read back: its name is one, and its value does not end before its end. -/
def Readable (pair : String × String) : Prop := IsName pair.1 ∧ '"' ∉ pair.2.toList

theorem reads_attr {start : XmlReader} {element : XmlElement} {name value : String}
    (space : Reads start " " [] (.inside element [])) (readable : Readable (name, value)) :
    Reads start (attr name value) [] (.inside (element.add [(name, value)]) []) := by
  have opens : Reads (.inside element name.toList) "=\"" []
      (.quoted element name.toList '"' []) := fun _ => rfl
  have closes : Reads (.quoted element name.toList '"' value.toList) "\"" []
      (.inside (element.add [(name, value)]) []) := fun _ => rfl
  exact (((space.append (reads_inside readable.1 element)).append opens).append
    (reads_quoted readable.2 element name.toList)).append closes

theorem reads_attributeText {attributes : List (String × String)}
    (readable : ∀ pair ∈ attributes, Readable pair) (element : XmlElement) :
    Reads (.inside element []) (attributeText attributes) []
      (.inside (element.add attributes) []) := by
  induction attributes generalizing element with
  | nil =>
      rw [XmlElement.add_nil]
      exact .empty _
  | cons pair attributes ih =>
      obtain ⟨first, others⟩ := List.forall_mem_cons.1 readable
      have rest := ih others (element.add [pair])
      rw [XmlElement.add_add] at rest
      exact (reads_attr (fun _ => rfl) first).append rest

/-- An element that is written with a name and attributes. -/
def xmlElement (name : String) (attributes : List (String × String)) : XmlElement :=
  XmlElement.add ⟨name.toList, []⟩ attributes

theorem reads_tag {name : String} (named : IsName name) {attributes : List (String × String)}
    (nonempty : attributes ≠ []) (readable : ∀ pair ∈ attributes, Readable pair) :
    Reads .content ("<" ++ name ++ attributeText attributes) []
      (.inside (xmlElement name attributes) []) := by
  cases attributes with
  | nil => exact absurd rfl nonempty
  | cons pair attributes =>
      obtain ⟨first, others⟩ := List.forall_mem_cons.1 readable
      have rest := reads_attributeText others (xmlElement name [pair])
      rw [xmlElement, XmlElement.add_add] at rest
      exact (reads_opening named).append ((reads_attr (fun _ => rfl) first).append rest)

/-! ## Elements -/

def idAttributes (id : Option String) : List (String × String) :=
  id.toList.map fun id => ("id", escapeXml id)

def pointPairs (xName yName : String) (p : Vec Float) : List (String × String) :=
  [(xName, coordinate p.x), (yName, coordinate p.y)]

namespace Element

def tagName {α : Type} : Element α → String
  | .line _ _ _ _ => "line"
  | .circle _ _ _ _ => "circle"
  | .polygon _ _ _ => "polygon"
  | .arc _ _ _ _ _ _ => "path"
  | .point _ _ _ => "circle"
  | .label _ _ => "text"

/-- The attributes of an element besides its identifier. -/
def ownAttributes (settings : Settings Float) : Element Float → List (String × String)
  | .line _ a b color =>
      ("class", shape "line") :: (pointPairs "x1" "y1" a ++ pointPairs "x2" "y2" b ++ stroke color)
  | .circle _ center radius color =>
      ("class", shape "circle") :: (pointPairs "cx" "cy" center ++ ("r", coordinate radius) ::
        stroke color)
  | .polygon _ vertices color =>
      ("class", shape "polygon") :: ("points", " ".intercalate (vertices.map vertex)) ::
        ("fill", color) :: stroke color
  | .arc _ start stop radius large color =>
      ("class", shape "angle") :: ("d", arcPath start stop radius large) :: stroke color
  | .point _ position color =>
      ("class", settings.classStem ++ "point") :: (pointPairs "cx" "cy" position ++
        [("r", number settings.pointRadius), ("fill", color)])
  | .label _ position => ("class", settings.classStem ++ "label") :: pointPairs "x" "y" position
where
  shape (name : String) : String := settings.classStem ++ "shape " ++ settings.classStem ++ name
  stroke (color : String) : List (String × String) :=
    [("stroke", color), ("stroke-width", number settings.strokeWidth)]

/-- What is written of an element after its attributes. -/
def ending {α : Type} : Element α → String
  | .label text _ => ">" ++ escapeXml text ++ "</text>"
  | _ => "/>"

/-- An element as it can be read in the text of a drawing. -/
def written (settings : Settings Float) (element : Element Float) : XmlElement :=
  xmlElement element.tagName (idAttributes element.id? ++ element.ownAttributes settings)

theorem idAttribute_eq (id : Option String) : idAttribute id = attributeText (idAttributes id) := by
  cases id with
  | none => rfl
  | some id => simp [idAttribute, idAttributes, attributeText]

theorem render_eq (settings : Settings Float) (element : Element Float) :
    element.render settings = "<" ++ element.tagName ++
      attributeText (idAttributes element.id? ++ element.ownAttributes settings) ++
      element.ending := by
  rw [attributeText_append, ← idAttribute_eq]
  cases element <;>
    simp [render, emptyElement, tagName, ownAttributes, ending, attributeText, pointPairs,
      pointAttributes, Settings.shapeClass, Settings.plainClass, Settings.stroke,
      ownAttributes.shape, ownAttributes.stroke, Element.id?, idAttribute,
      String.intercalate_cons_cons, String.append_assoc]

end Element

theorem unquoted_append {first second : String} (one : '"' ∉ first.toList)
    (two : '"' ∉ second.toList) : '"' ∉ (first ++ second).toList := by
  simp [String.toList_append, one, two]

theorem unquoted_vertex (p : Vec Float) : '"' ∉ (vertex p).toList :=
  unquoted_append (unquoted_append (unquoted_coordinate p.x) (by decide)) (unquoted_coordinate p.y)

theorem unquoted_intercalate {separator : String} (plain : '"' ∉ separator.toList)
    {parts : List String} (unquoted : ∀ part ∈ parts, '"' ∉ part.toList) :
    '"' ∉ (separator.intercalate parts).toList := by
  induction parts with
  | nil => simp
  | cons part parts ih =>
      obtain ⟨first, others⟩ := List.forall_mem_cons.1 unquoted
      cases parts with
      | nil => simpa using first
      | cons next parts =>
          rw [String.intercalate_cons_cons]
          exact unquoted_append (unquoted_append first plain) (ih others)

theorem unquoted_arcPath (start stop : Vec Float) (radius : Float) (large : Bool) :
    '"' ∉ (arcPath start stop radius large).toList := by
  refine unquoted_intercalate (by decide) ?_
  have command (letter : String) (plain : '"' ∉ letter.toList) (x : Float) :
      '"' ∉ (letter ++ coordinate x).toList := unquoted_append plain (unquoted_coordinate x)
  have flag : '"' ∉ (if large then "1" else "0").toList := by cases large <;> decide
  simp only [List.forall_mem_cons, List.not_mem_nil, false_implies, implies_true, and_true]
  exact ⟨command "M" (by decide) _, unquoted_coordinate _, command "A" (by decide) _,
    unquoted_coordinate _, by decide, flag, by decide, unquoted_coordinate _,
    unquoted_coordinate _⟩

theorem isName_ownAttributes (settings : Settings Float) (element : Element Float) :
    ∀ pair ∈ element.ownAttributes settings, IsName pair.1 := by
  cases element <;>
    simp only [Element.ownAttributes, Element.ownAttributes.stroke, pointPairs, List.cons_append,
      List.nil_append, List.forall_mem_cons, List.not_mem_nil, false_implies, implies_true,
      and_true] <;>
    decide

/-- A value is quoted only if the start of the names of classes or the color is. -/
theorem unquoted_ownAttributes {settings : Settings Float}
    (stem : '"' ∉ settings.classStem.toList) (element : Element Float)
    (color : ∀ color ∈ element.color?, '"' ∉ color.toList) :
    ∀ pair ∈ element.ownAttributes settings, '"' ∉ pair.2.toList := by
  have shaped (name : String) (plain : '"' ∉ name.toList) :
      '"' ∉ (Element.ownAttributes.shape settings name).toList :=
    unquoted_append (unquoted_append (unquoted_append stem (by decide)) stem) plain
  have width := unquoted_number settings.strokeWidth
  cases element <;>
    simp only [Element.ownAttributes, Element.ownAttributes.stroke, pointPairs, List.cons_append,
      List.nil_append, List.forall_mem_cons, List.not_mem_nil, false_implies, implies_true,
      and_true]
  case line a b own =>
    exact ⟨shaped "line" (by decide), unquoted_coordinate a.x, unquoted_coordinate a.y,
      unquoted_coordinate b.x, unquoted_coordinate b.y, color own rfl, width⟩
  case circle center radius own =>
    exact ⟨shaped "circle" (by decide), unquoted_coordinate center.x,
      unquoted_coordinate center.y, unquoted_coordinate radius, color own rfl, width⟩
  case polygon vertices own =>
    have points : '"' ∉ (" ".intercalate (vertices.map vertex)).toList :=
      unquoted_intercalate (by decide) (List.forall_mem_map.2 fun p _ => unquoted_vertex p)
    exact ⟨shaped "polygon" (by decide), points, color own rfl, color own rfl, width⟩
  case arc start stop radius large own =>
    exact ⟨shaped "angle" (by decide), unquoted_arcPath start stop radius large, color own rfl,
      width⟩
  case point position own =>
    exact ⟨unquoted_append stem (by decide), unquoted_coordinate position.x,
      unquoted_coordinate position.y, unquoted_number settings.pointRadius, color own rfl⟩
  case label text position =>
    exact ⟨unquoted_append stem (by decide), unquoted_coordinate position.x,
      unquoted_coordinate position.y⟩

theorem readable_idAttributes (id : Option String) : ∀ pair ∈ idAttributes id, Readable pair := by
  cases id with
  | none => exact List.forall_mem_nil _
  | some id =>
      have named : IsName "id" := by decide
      exact List.forall_mem_singleton.2 ⟨named, quote_not_mem_escapeXml id⟩

theorem isName_tagName {α : Type} (element : Element α) : IsName element.tagName := by
  cases element <;> (simp only [Element.tagName]; decide)

/-- An element of a drawing is read as it is written. -/
theorem reads_render {settings : Settings Float} (stem : '"' ∉ settings.classStem.toList)
    (element : Element Float) (color : ∀ color ∈ element.color?, '"' ∉ color.toList) :
    Reads .content (element.render settings) [element.written settings] .content := by
  have closed (found : XmlElement) : Reads (.inside found []) "/>" [found] .content := fun _ => rfl
  have ends : Reads (.inside (element.written settings) []) element.ending
      [element.written settings] .content := by
    cases element with
    | label text position =>
        have opened : Reads (.inside ((Element.label text position).written settings) []) ">"
            [(Element.label text position).written settings] .content := fun _ => rfl
        have closed : Reads .content "</text>" [] .content := fun _ => rfl
        have content : Reads .content (escapeXml text) [] .content :=
          reads_content (not_mem_escapeXml (by decide) text)
        exact (opened.append content).append closed
    | line _ _ _ _ | circle _ _ _ _ | polygon _ _ _ | arc _ _ _ _ _ _ | point _ _ _ =>
        exact closed _
  have nonempty : element.ownAttributes settings ≠ [] := by
    cases element <;> exact List.cons_ne_nil _ _
  have own : ∀ pair ∈ element.ownAttributes settings, Readable pair := fun pair member =>
    ⟨isName_ownAttributes settings element pair member,
      unquoted_ownAttributes stem element color pair member⟩
  have readable : ∀ pair ∈ idAttributes element.id? ++ element.ownAttributes settings,
      Readable pair :=
    List.forall_mem_append.2 ⟨readable_idAttributes element.id?, own⟩
  rw [element.render_eq]
  exact (reads_tag (isName_tagName element) (by simp [nonempty]) readable).append ends

/-! ## Drawings -/

/-- A drawing whose text is read as it is written: no value of it ends too early, and no style opens
a tag. -/
structure Legible (drawing : Drawing Float) : Prop where
  stem : '"' ∉ drawing.settings.classStem.toList
  styles : ∀ style ∈ drawing.styles, '<' ∉ style.toList
  colors : ∀ element ∈ drawing.elements, ∀ color ∈ element.color?, '"' ∉ color.toList

def frameAttributes (settings : Settings Float) : List (String × String) :=
  let extent := number settings.extent
  [("xmlns", "http://www.w3.org/2000/svg"), ("viewBox", "0 0 " ++ extent ++ " " ++ extent),
    ("width", extent), ("height", extent)]

def styleElements (styles : List String) : List XmlElement :=
  if styles.isEmpty then [] else [xmlElement "style" []]

theorem reads_lineEnd (settings : Settings Float) :
    Reads .content settings.lineEnd [] .content := by
  cases line : settings.pretty with
  | true => exact reads_content (by simp [Settings.lineEnd, line])
  | false => exact reads_content (by simp [Settings.lineEnd, line])

theorem reads_indentation (settings : Settings Float) :
    Reads .content settings.indentation [] .content := by
  cases line : settings.pretty with
  | true => exact reads_content (by simp [Settings.indentation, line])
  | false => exact reads_content (by simp [Settings.indentation, line])

theorem reads_renderStyles {drawing : Drawing Float} (legible : Legible drawing) :
    Reads .content drawing.renderStyles (styleElements drawing.styles) .content := by
  unfold renderStyles styleElements
  dsimp only
  split
  case isTrue unstyled => exact .empty .content
  case isFalse styled =>
    have opened : Reads .content "  <style>" [xmlElement "style" []] .content := fun _ => rfl
    have closed : Reads .content "  </style>" [] .content := fun _ => rfl
    have line := reads_lineEnd drawing.settings
    have rules : Reads .content
        ("".intercalate (drawing.styles.map ("    " ++ · ++ drawing.settings.lineEnd)))
        (drawing.styles.flatMap fun _ => []) .content :=
      reads_intercalate fun style member => ((reads_content (by decide)).append
        (reads_content (legible.styles style member))).append line
    have empty : (drawing.styles.flatMap fun _ => ([] : List XmlElement)) = [] := by simp
    rw [empty] at rules
    exact (((opened.append line).append rules).append closed).append line

theorem reads_frame (settings : Settings Float) :
    Reads .content ("<" ++ "svg" ++ attributeText (frameAttributes settings) ++ ">")
      [xmlElement "svg" (frameAttributes settings)] .content := by
  have extent := unquoted_number settings.extent
  have box : '"' ∉ ("0 0 " ++ number settings.extent ++ " " ++ number settings.extent).toList :=
    unquoted_append (unquoted_append (unquoted_append (by decide) extent) (by decide)) extent
  have readable : ∀ pair ∈ frameAttributes settings, Readable pair := by
    simp only [frameAttributes, Readable, List.forall_mem_cons, List.not_mem_nil, false_implies,
      implies_true, and_true]
    exact ⟨⟨by decide, by decide⟩, ⟨by decide, box⟩, ⟨by decide, extent⟩,
      ⟨by decide, extent⟩⟩
  have closed : Reads (.inside (xmlElement "svg" (frameAttributes settings)) []) ">"
      [xmlElement "svg" (frameAttributes settings)] .content := fun _ => rfl
  exact (reads_tag (by decide) (List.cons_ne_nil _ _) readable).append closed

/-- The elements in the text of a drawing are the frame, the styles, and those that are drawn. -/
theorem xmlElements_render {drawing : Drawing Float} (legible : Legible drawing) :
    xmlElements drawing.render = xmlElement "svg" (frameAttributes drawing.settings) ::
      (styleElements drawing.styles ++
        drawing.elements.map (Element.written drawing.settings)) := by
  have line := reads_lineEnd drawing.settings
  have each : ∀ element ∈ drawing.elements,
      Reads .content (drawing.settings.indentation ++ element.render drawing.settings ++
        drawing.settings.lineEnd) [element.written drawing.settings] .content := by
    intro element member
    exact ((reads_indentation drawing.settings).append
      (reads_render legible.stem element (legible.colors element member))).append line
  have drawn := reads_intercalate each
  rw [← List.map_eq_flatMap] at drawn
  have closed : Reads .content "</svg>" [] .content := fun _ => rfl
  have whole := ((((reads_frame drawing.settings).append line).append
    (reads_renderStyles legible)).append drawn).append closed
  have tag : "<svg" = "<" ++ "svg" := by decide
  have text : drawing.render = "<" ++ "svg" ++ attributeText (frameAttributes drawing.settings) ++
      ">" ++ drawing.settings.lineEnd ++ drawing.renderStyles ++
      "".intercalate (drawing.elements.map fun element => drawing.settings.indentation ++
        element.render drawing.settings ++ drawing.settings.lineEnd) ++ "</svg>" := by
    simp only [render, tag, frameAttributes, attributeText, String.append_assoc,
      String.append_empty]
  rw [text, whole.xmlElements_eq]
  simp

end FigureMarkup.Drawing
