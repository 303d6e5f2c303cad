import FigureMarkup.Proofs.Compilation.Stages
import FigureMarkup.Proofs.Scene.Integrity

/-!
# Integrity of compiled scenes

Every scene that a document is compiled to depicts the figure of the document: it has one entry for
each entity, under an identifier of its own. Whatever refers to an entity by its identifier finds
that entry, be it another entry, a step of the animation, or the target of a declaration.
-/

namespace FigureMarkup

open Construction Figure

variable {σ α : Type} [Scalar α]

theorem Compilation.Sound.names_target {palette : Palette} {compilation : Compilation α}
    (sound : Sound palette compilation) {id : String} (member : some id ∈ compilation.targets) :
    Names compilation.registry id := by
  obtain ⟨i, here⟩ := List.mem_iff_getElem?.1 member
  have inside := (List.getElem?_eq_some_iff.1 here).choose
  rw [sound.count] at inside
  obtain ⟨target, known, outcome, -, held, rfl⟩ :=
    sound.targets i _ (List.getElem?_eq_getElem inside)
  rw [here, Option.some.injEq] at known
  obtain ⟨main, about, same⟩ := Option.map_eq_some_iff.1 known.symm
  exact ⟨main, held main about, same⟩

/-- The scene of a sound compilation depicts its figure and is intact. -/
theorem Compilation.Sound.intact {palette : Palette} {compilation : Compilation α}
    (sound : Sound palette compilation) (text : String) :
    let scene := Scene.assemble compilation.registry compilation.animations text
    scene.Depicts compilation.registry ∧ scene.Intact := by
  have depicts := Scene.depicts_assemble sound.resolved.formed.indexed compilation.animations text
  exact ⟨depicts, depicts.intact sound.resolved.formed sound.resolved.placed
    sound.resolved.measured sound.shown⟩

variable [Random.Source σ α]

/-- The scene of a document has exactly one entry for each entity of the figure, with its
identifier. All references, steps of the animation and targets of declarations lead to entries, and
the points that are referred to have a place. -/
theorem compile_intact {settings : CompileSettings α} {random : σ} {document : String}
    {scene : Scene α} (compiles : compile settings random document = .ok scene) :
    ∃ compilation text, Compilation.ofDocument settings random document = .ok compilation ∧
      compilation.text? settings.annotated document = some text ∧
      scene = .assemble compilation.registry compilation.animations text ∧
      scene.Depicts compilation.registry ∧ scene.Intact ∧
      compilation.targets.length = compilation.declarations.length ∧
      ∀ id, some id ∈ compilation.targets → ∃ entry, scene.find? id = some entry := by
  obtain ⟨compilation, text, compiled, annotated, rfl⟩ := compile_eq_ok compiles
  obtain ⟨-, sound⟩ := Compilation.sound_of_ofDocument compiled
  obtain ⟨depicts, intact⟩ := sound.intact text
  refine ⟨compilation, text, compiled, annotated, rfl, depicts, intact, sound.count, ?_⟩
  intro id member
  obtain ⟨entity, held, rfl⟩ := sound.names_target member
  obtain ⟨entry, found, -⟩ := depicts.entry entity held
  exact ⟨entry, found⟩

/-- A line, a circle and a step of the animation refer to points in other spellings than those in
which the points were declared. -/
theorem compile_intact_spelling :
    let document := "[point B x=1 y=2] [line aB] [step] [circle c center=A radius=2]"
    let compiled : Except CompileError (Scene Float) :=
      compile .standard (Random.Keystream.ofSeed 1) document
    ∃ scene, compiled = .ok scene ∧
      scene.entities.map (·.id) = ["circle_c", "line_Ba", "point_B", "point_a"] ∧
      scene.animations = [["point_B", "line_Ba", "point_a"],
        ["point_B", "line_Ba", "point_a", "circle_c"]] ∧
      scene.Intact := by
  intro document compiled
  have shows : compiled.toOption.map (fun scene => (scene.entities.map (·.id), scene.animations)) =
      some (["circle_c", "line_Ba", "point_B", "point_a"],
        [["point_B", "line_Ba", "point_a"], ["point_B", "line_Ba", "point_a", "circle_c"]]) := by
    decide +kernel
  obtain ⟨scene, done, same⟩ := Option.map_eq_some_iff.1 shows
  obtain ⟨ids, animations⟩ := Prod.mk.injEq .. ▸ same
  have compiles : compiled = .ok scene := by
    cases result : compiled <;> rw [result] at done <;> cases done
    rfl
  obtain ⟨-, -, -, -, -, -, intact, -⟩ := compile_intact compiles
  exact ⟨scene, compiles, ids, animations, intact⟩

end FigureMarkup
