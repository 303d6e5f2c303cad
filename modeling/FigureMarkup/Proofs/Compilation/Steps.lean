import FigureMarkup.Proofs.AnnotatedText.Sections
import FigureMarkup.Proofs.Compilation.Integrity

/-!
# Steps of compiled scenes

The step markers of a document count twice: for the groups of the animation, which are recorded
while the declarations are applied, and for the sections of the annotated text, which is written
afterwards. Both end at the same markers.
-/

namespace FigureMarkup

open AnnotatedText Construction Figure Markup

variable {σ α : Type} [Scalar α] [Random.Source σ α]

/-- The animation of a compilation has one group for each end of a step. -/
theorem Compilation.animations_of_ofDocument {settings : CompileSettings α} {random : σ}
    {document : String} {compilation : Compilation α}
    (compiles : ofDocument settings random document = .ok compilation) :
    compilation.animations = (stepEnds compilation.declarations).map fun stop =>
      shownAfter α settings.palette (compilation.declarations.take stop) := by
  have stages := stages settings random document
  rw [compiles] at stages
  cases stages with
  | @placed declarations interpreter parsed interpreted done =>
      have shows := (showsSteps_start (α := α) settings.palette).interpretAll
        (congrArg Prod.fst interpreted)
      rw [interpreted] at shows
      exact shows.all

/-- The animation of a compiled document has one group more than the document has step markers. Each
group holds what has been touched between the last clear and its marker, in the order in which it
was touched first and without repetition. The annotated text has as many sections, with numbers in
order, and each of them holds the passages between two markers. -/
theorem compile_steps {settings : CompileSettings α} {random : σ} {document : String}
    {scene : Scene α} (annotated : settings.annotated = true)
    (compiles : compile settings random document = .ok scene) :
    ∃ compilation passages rest,
      Compilation.ofDocument settings random document = .ok compilation ∧
      Passages document.toList 0 0 document.toList compilation.declarations compilation.targets
        passages rest ∧
      passages.length = compilation.declarations.length ∧
      scene.animations.length = compilation.declarations.countP isStep + 1 ∧
      scene.animations = (stepEnds compilation.declarations).map (fun stop =>
        shownAfter α settings.palette (compilation.declarations.take stop)) ∧
      (∀ group ∈ scene.animations, group.Nodup) ∧
      (sections compilation.declarations passages rest).length = scene.animations.length ∧
      scene.text = String.join
        ((sections compilation.declarations passages rest).mapIdx sectionText) := by
  obtain ⟨compilation, text, compiled, written, rfl⟩ := compile_eq_ok compiles
  obtain ⟨read, sound⟩ := Compilation.sound_of_ofDocument compiled
  obtain ⟨passages, rest, divided, annotation⟩ := annotate?_sections read compilation.targets
  have groups := Compilation.animations_of_ofDocument compiled
  have ends : compilation.animations.length =
      (stepEnds compilation.declarations).length := by
    rw [groups, List.length_map]
  refine ⟨compilation, passages, rest, compiled, divided, divided.length_eq, ?_, groups,
    fun group member => (sound.shown group member).1, ?_, ?_⟩
  · show compilation.animations.length = _
    rw [ends, stepEnds, List.length_append, List.length_singleton, stepMarkers,
      List.length_findIdxs]
  · show _ = compilation.animations.length
    rw [ends, length_sections]
  · rw [Compilation.text?, annotated, if_pos rfl, annotation, Option.some.injEq] at written
    exact written.symm

/-- Two markers make three groups and three sections. The line and its points appear again after
everything has vanished, and moving a point shows nothing. -/
theorem compile_steps_cleared :
    let document := "one [point A][step] two [line aB]\n[loc C 1 2]\n[step][clear] three [line BA]"
    ∃ scene : Scene Float, compile .standard (Random.Keystream.ofSeed 1) document = .ok scene ∧
      scene.animations =
        [["point_A"], ["point_A", "line_Ba", "point_B"], ["line_Ba", "point_A", "point_B"]] ∧
      ∃ contents : List String, contents.length = 3 ∧
        scene.text = String.join (contents.mapIdx sectionText) := by
  intro document
  have shown : (compile .standard (Random.Keystream.ofSeed 1) document :
      Except _ (Scene Float)).toOption.map (·.animations) =
        some [["point_A"], ["point_A", "line_Ba", "point_B"],
          ["line_Ba", "point_A", "point_B"]] := by
    decide +kernel
  cases compiles : (compile .standard (Random.Keystream.ofSeed 1) document :
      Except _ (Scene Float)) with
  | error error =>
      rw [compiles] at shown
      cases shown
  | ok scene =>
      rw [compiles] at shown
      have groups := Option.some.inj shown
      obtain ⟨compilation, passages, rest, -, -, -, -, -, -, same, text⟩ :=
        compile_steps rfl compiles
      have three : scene.animations.length = 3 := congrArg List.length groups
      exact ⟨scene, rfl, groups, _, same.trans three, text⟩

end FigureMarkup
