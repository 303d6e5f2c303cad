import FigureMarkup.Proofs.AnnotatedText.Labels
import FigureMarkup.Proofs.Compilation.Integrity
import FigureMarkup.Proofs.Drawing.Coverage
import FigureMarkup.Proofs.Drawing.Identifiers

/-!
# Labels and drawings

Every label in the text of a compiled document leads to an entity of the scene: the one that its
declaration is mainly about. The drawing of the scene has exactly one element for that entity,
unless it is a circle without a form.
-/

namespace FigureMarkup

open AnnotatedText Construction Drawing Figure Markup Placement Text

variable {σ α : Type} [Scalar α]

/-- A declaration with a label is mainly about an entity, and its target is that entity. -/
theorem Compilation.Sound.main_of_labelled {palette : Palette} {compilation : Compilation α}
    (sound : Sound palette compilation) {i : Nat} {declaration : Declaration}
    (stored : compilation.declarations[i]? = some declaration)
    (labelled : Labelled declaration) :
    ∃ main others,
      (apply (construct palette (compilation.declarations.take i) : Registry α) declaration).1 =
        .ok (.entities (main :: others)) ∧
      compilation.registry.Holds main ∧
      compilation.targets[i]?.join = some (compilation.registry.sceneId main) := by
  obtain ⟨target, known, outcome, applied, held, rfl⟩ := sound.targets i declaration stored
  have unmarked : ¬ Marks declaration outcome := by
    intro marks
    have listed : kindOf? declaration ∈
        [some .loc, some .step, some .clear, some .definitions] := by
      cases marks with
      | step kind | clear kind | definitions kind =>
          rw [kind]
          decide
    exact labelled.2 listed
  obtain ⟨main, others, rfl⟩ := apply_main (construct_sound palette _).1 applied unmarked
  exact ⟨main, others, applied, held main rfl, by rw [known]; rfl⟩

/-- An identifier leads to an entity of a scene. In the text of every drawing of the scene, one
element has this identifier, or none if the entity is a circle without a form. -/
def LeadsTo (scene : Scene Float) (id : String) : Prop :=
  ∃ entry, scene.find? id = some entry ∧
    ∀ settings : Drawing.Settings Float, settings.PlainStem →
      (Formless scene entry.data → elementsWithId (ofScene settings scene).render id = []) ∧
      (¬ Formless scene entry.data →
        ∃ element, elementsWithId (ofScene settings scene).render id = [element])

/-- The identifier of each entity leads to it. -/
theorem Compilation.Sound.leadsTo {palette : Palette} {compilation : Compilation Float}
    (sound : Sound palette compilation) (text : String) {entity : EntityRef}
    (held : compilation.registry.Holds entity) :
    LeadsTo (.assemble compilation.registry compilation.animations text)
      (compilation.registry.sceneId entity) := by
  generalize assembled : Scene.assemble compilation.registry compilation.animations text = scene
  have depicts : scene.Depicts compilation.registry := assembled ▸ (sound.intact text).1
  obtain ⟨entry, found, same, shown⟩ := depicts.entry entity held
  obtain ⟨member, -⟩ := Scene.find?_eq_some_iff.1 found
  refine ⟨entry, found, fun settings plain => ?_⟩
  have drawn : elementsFor settings (.fit settings scene) scene entry = [] ↔
      Formless scene entry.data :=
    elementsFor_eq_nil_iff depicts sound.resolved.placed sound.resolved.formed
      sound.resolved.measured shown
  refine ⟨fun formless => ?_, fun formed => ?_⟩
  · by_contra written
    obtain ⟨other, alsoMember, alsoSame, visible⟩ := (elementsWithId_ne_nil_iff plain).1 written
    have foundOther := Scene.find?_eq_some_iff.2 ⟨alsoMember, alsoSame⟩
    rw [found, Option.some.injEq] at foundOther
    exact visible (foundOther ▸ drawn.2 formless)
  · have written := (elementsWithId_ne_nil_iff plain).2
      ⟨entry, member, same, fun hidden => formed (drawn.1 hidden)⟩
    have atMost : (elementsWithId (ofScene settings scene).render
        (compilation.registry.sceneId entity)).length ≤ 1 := length_elementsWithId_le_one plain
    have atLeast := List.length_pos_iff.2 written
    exact List.length_eq_one_iff.1 (by omega)

variable [Random.Source σ Float]

/-- The annotated text of a document has one passage for each declaration. In it stands a single
label that leads to the entity that the declaration is mainly about; for a declaration without a
label there is nothing or a section break. In the text of a drawing of the scene no two elements
have the same identifier. -/
theorem compile_labels {settings : CompileSettings Float} {random : σ} {document : String}
    {scene : Scene Float} (annotated : settings.annotated = true)
    (compiles : compile settings random document = .ok scene) :
    ∃ compilation passages rest,
      Compilation.ofDocument settings random document = .ok compilation ∧
      Passages document.toList 0 0 document.toList compilation.declarations compilation.targets
        passages rest ∧
      passages.length = compilation.declarations.length ∧
      scene.text = "<div id='step_0'>" ++ (String.join (passages.map Passage.text) ++
        String.ofList (unescapeBrackets rest)) ++ "</div>" ∧
      (∀ i declaration, compilation.declarations[i]? = some declaration →
        ∃ passage, passages[i]? = some passage ∧
          (Labelled declaration → ∃ main others,
            (apply (construct settings.palette (compilation.declarations.take i) : Registry Float)
              declaration).1 = .ok (.entities (main :: others)) ∧
            passage.output = labelText (compilation.registry.sceneId main)
              ((declaration.argument? "text").getD (standardLabel declaration)) ∧
            LeadsTo scene (compilation.registry.sceneId main)) ∧
          (¬ Labelled declaration → passage.output = "" ∨
            ∃ number, passage.output = sectionBreak number)) ∧
      ∀ drawing : Drawing.Settings Float, drawing.PlainStem →
        ∀ id, (elementsWithId (ofScene drawing scene).render id).length ≤ 1 := by
  obtain ⟨compilation, text, compiled, written, rfl⟩ := compile_eq_ok compiles
  obtain ⟨read, sound⟩ := Compilation.sound_of_ofDocument compiled
  obtain ⟨passages, rest, divided, annotation⟩ := annotate?_eq read compilation.targets
  rw [Compilation.text?, annotated, if_pos rfl, annotation, Option.some.injEq] at written
  refine ⟨compilation, passages, rest, compiled, divided, divided.length_eq, written.symm,
    fun i declaration stored => ?_, fun _ plain _ => length_elementsWithId_le_one plain⟩
  obtain ⟨passage, before, known, output⟩ := divided.output stored
  refine ⟨passage, known, fun labelled => ?_, fun unlabelled => ?_⟩
  · obtain ⟨main, others, applied, held, target⟩ := sound.main_of_labelled stored labelled
    refine ⟨main, others, applied, ?_, sound.leadsTo text held⟩
    rw [output, target, render_labelled labelled]
  · rw [output]
    rcases render_unlabelled unlabelled before compilation.targets[i]?.join with nothing | step
    · exact .inl nothing
    · exact .inr ⟨_, step⟩

/-- The label of a line leads to the line. A hidden circle and the place of a point have no
labels. -/
theorem compile_labels_line :
    let document := "[line AB] \\[1\\] [circle e hidden]\n[loc A x=1 y=2]\n"
    let seed := Random.Keystream.ofSeed 1
    ∃ scene : Scene Float, compile .standard seed document = .ok scene ∧
      scene.text = "<div id='step_0'>" ++ labelText "line_AB" "line AB" ++ " [1] \n</div>" ∧
      ∃ element, elementsWithId (ofScene .standard scene).render "line_AB" = [element] := by
  intro document seed
  let line : Declaration := ⟨"line", some "AB", 1, ⟨0, 9⟩, [], []⟩
  have written : (compile .standard seed document : Except _ (Scene Float)).toOption.map
      (fun scene => (scene.text, (scene.find? "line_AB").map (·.data.kind))) =
      some ("<div id='step_0'>" ++ labelText "line_AB" "line AB" ++ " [1] \n</div>",
        some .line) := by
    decide +kernel
  have declared : (Compilation.ofDocument .standard seed document).toOption.map
      (fun compilation : Compilation Float =>
        (compilation.declarations[0]?, compilation.registry.sceneId (.line ⟨0⟩))) =
      some (some line, "line_AB") := by
    decide +kernel
  have about : (apply (construct .standard [] : Registry Float) line).1 =
      .ok (.entities [.line ⟨0⟩, .point ⟨0⟩, .point ⟨1⟩]) := by
    decide +kernel
  have plain : (Drawing.Settings.standard : Drawing.Settings Float).PlainStem := by decide
  cases compiles : (compile .standard seed document : Except _ (Scene Float)) with
  | error error =>
      rw [compiles] at written
      cases written
  | ok scene =>
      rw [compiles] at written
      obtain ⟨text, kind⟩ := Prod.mk.inj (Option.some.inj written)
      obtain ⟨compilation, passages, rest, compiled, -, -, -, labels, -⟩ :=
        compile_labels rfl compiles
      rw [compiled] at declared
      obtain ⟨first, named⟩ := Prod.mk.inj (Option.some.inj declared)
      obtain ⟨passage, -, labelled, -⟩ := labels 0 line first
      obtain ⟨main, others, applied, -, leads⟩ := labelled (by decide +kernel)
      rw [List.take_zero] at applied
      have same := about.symm.trans applied
      cases same
      obtain ⟨entry, found, drawn⟩ := named ▸ leads
      rw [found] at kind
      have isLine : entry.data.kind = .line := Option.some.inj kind
      have formed : ¬ Formless scene entry.data := fun formless => by
        cases isLine.symm.trans formless.1
      exact ⟨scene, rfl, text, (drawn .standard plain).2 formed⟩

end FigureMarkup
