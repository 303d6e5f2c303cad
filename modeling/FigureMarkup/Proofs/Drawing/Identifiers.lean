import FigureMarkup.Proofs.Drawing.Elements
import FigureMarkup.Proofs.Drawing.Tags

/-!
# Identifiers in written drawings

In the text of a drawing, the elements with an identifier are those of the entities of which
something is drawn, one for each of them. The names of classes must not start with text that ends a
value or opens a tag, for then attributes and elements of any kind could stand in it.
-/

namespace FigureMarkup.Drawing

open Decimal Text

/-- The text that names of classes start with neither ends a value nor opens a tag. -/
def Settings.PlainStem {α : Type} (settings : Settings α) : Prop :=
  ∀ c ∈ ['"', '<'], c ∉ settings.classStem.toList

instance {α : Type} (settings : Settings α) : Decidable settings.PlainStem :=
  List.decidableBAll (· ∉ settings.classStem.toList) ['"', '<']

/-! ## Drawings of scenes -/

theorem unquoted_cssColor (color : Rgba) : '"' ∉ (cssColor color).toList := by
  have channel (x : Float) : '"' ∉ (toString (byteOf x).toNat).toList :=
    unquoted_of_spells (.digits fun _ => isDigit_of_mem_digitText)
  refine unquoted_append (unquoted_append (by decide) ?_) (by decide)
  refine unquoted_intercalate (by decide) (List.forall_mem_append.2 ⟨?_, ?_⟩)
  · exact List.forall_mem_map.2 fun x _ => channel x
  · exact List.forall_mem_singleton.2 (unquoted_number _)

variable {settings : Settings Float} {scene : Scene Float} {id : String}

theorem legible_ofScene (plain : settings.PlainStem) (scene : Scene Float) :
    Legible (ofScene settings scene) where
  stem := plain '"' (by decide)
  styles := by
    have stem := plain '<' (by decide)
    refine List.forall_mem_singleton.2 ?_
    simp [standardStyle, String.intercalate_cons_cons, stem]
  colors element drawn color colored := by
    obtain ⟨entity, -, among⟩ :=
      List.mem_flatMap.1 ((elementsOf_perm settings scene).mem_iff.1 drawn)
    rw [color_of_elementsFor among colored]
    exact unquoted_cssColor entity.color

/-! ## Elements with an identifier -/

/-- The identifier of an element can be read off its text. -/
theorem hasId_written (element : Element Float) :
    (element.written settings).hasId id = decide (element.id? = some id) := by
  have own : (element.ownAttributes settings).any (fun pair =>
      pair.1.toList = "id".toList && decodeXml pair.2.toList = id.toList) = false := by
    cases element <;> simp [Element.ownAttributes, Element.ownAttributes.stroke, pointPairs]
  have first : (idAttributes element.id?).any (fun pair =>
      pair.1.toList = "id".toList && decodeXml pair.2.toList = id.toList) =
        decide (element.id? = some id) := by
    cases element.id? with
    | none => rfl
    | some given => simp [idAttributes, decodeXml_escapeXml, String.toList_inj]
  rw [XmlElement.hasId, Element.written, xmlElement, XmlElement.add, List.nil_append, List.any_map,
    List.any_append]
  exact (congrArg₂ or first own).trans (Bool.or_false _)

theorem hasId_frame : (xmlElement "svg" (frameAttributes settings)).hasId id = false := by
  simp [XmlElement.hasId, frameAttributes, xmlElement, XmlElement.add]

/-- Only what is drawn has an identifier in the text of a drawing. -/
theorem elementsWithId_render (plain : settings.PlainStem) :
    elementsWithId (ofScene settings scene).render id =
      ((elementsOf settings scene).filter fun element => element.id? = some id).map
        (Element.written settings) := by
  have style : (xmlElement "style" []).hasId id = false := rfl
  rw [elementsWithId, xmlElements_render (legible_ofScene plain scene),
    List.filter_cons_of_neg (by simp [hasId_frame]), List.filter_append]
  simp [ofScene, styleElements, style, List.filter_map, Function.comp_def, hasId_written]

theorem length_elementsWithId (plain : settings.PlainStem) :
    (elementsWithId (ofScene settings scene).render id).length =
      ((elementsOf settings scene).filterMap Element.id?).count id := by
  rw [elementsWithId_render plain, List.length_map, ← List.countP_eq_length_filter, List.count,
    List.countP_filterMap]
  refine List.countP_congr fun element _ => ?_
  cases element.id? <;> simp

/-- No two elements in the text of a drawing have the same identifier. -/
theorem length_elementsWithId_le_one (plain : settings.PlainStem) :
    (elementsWithId (ofScene settings scene).render id).length ≤ 1 := by
  rw [length_elementsWithId plain]
  exact List.nodup_iff_count_le_one.1 (nodup_ids_elementsOf settings scene) id

/-- A stem that ends the value of a class can give one identifier to several elements. -/
example :
    let settings := { Settings.standard with classStem := "x\" id=\"p\" y=\"" }
    let points := ["p", "q"].map fun id => Element.point (some id) ⟨1, 2⟩ "black"
    (elementsWithId (render ⟨settings, [], points⟩) "p").length = 2 := by
  decide +kernel

/-- The identifiers in the text of a drawing are those of the entities of which something is
drawn. -/
theorem elementsWithId_ne_nil_iff (plain : settings.PlainStem) :
    elementsWithId (ofScene settings scene).render id ≠ [] ↔
      ∃ entity ∈ scene.entities, entity.id = id ∧
        elementsFor settings (.fit settings scene) scene entity ≠ [] := by
  rw [← mem_ids_elementsOf, ← List.count_pos_iff, ← length_elementsWithId plain,
    List.length_pos_iff]

end FigureMarkup.Drawing
