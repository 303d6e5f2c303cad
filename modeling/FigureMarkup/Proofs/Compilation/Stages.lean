import FigureMarkup.Compilation
import FigureMarkup.Proofs.Construction.Interpreting
import FigureMarkup.Proofs.Placement.Resolved

/-!
# Stages of a compilation

The figure of a document comes about in three stages, and each of them can be the one that fails.
If all of them succeed, the figure is the one that its declarations build, with all points placed
and all angles measured. What was recorded on the way still fits it.
-/

namespace FigureMarkup

open Construction Figure Markup Placement

variable {σ α : Type} [Scalar α] [Random.Source σ α]

namespace Compilation

/-- The ends of a compilation before anything is written: reading, interpreting or placing fails,
or none of them does. -/
inductive Stages (settings : CompileSettings α) (random : σ) (document : String) :
    Except CompileError (Compilation α) → Prop
  | unread {errors : List ParseError} (parsed : Declaration.parse document = .error errors) :
      Stages settings random document (.error (.parse errors))
  | unconstructed {declarations : List Declaration} {error : Construction.Error}
      (parsed : Declaration.parse document = .ok declarations)
      (failed : ((Interpreter.start settings.palette : Interpreter α).interpretAll
        declarations).1 = .error error) :
      Stages settings random document (.error (.construction error))
  | unplaced {declarations : List Declaration} {interpreter : Interpreter α}
      {error : PlacementError} (parsed : Declaration.parse document = .ok declarations)
      (interpreted : (Interpreter.start settings.palette).interpretAll declarations =
        (.ok (), interpreter))
      (failed : (resolve settings.placement ⟨interpreter.registry, random⟩).1 = .error error) :
      Stages settings random document (.error (.placement error))
  | placed {declarations : List Declaration} {interpreter : Interpreter α}
      (parsed : Declaration.parse document = .ok declarations)
      (interpreted : (Interpreter.start settings.palette).interpretAll declarations =
        (.ok (), interpreter))
      (resolved : (resolve settings.placement ⟨interpreter.registry, random⟩).1 = .ok ()) :
      Stages settings random document
        (.ok ⟨declarations, (resolve settings.placement ⟨interpreter.registry, random⟩).2.registry,
          interpreter.animation.all, interpreter.targets.toList⟩)

theorem stages (settings : CompileSettings α) (random : σ) (document : String) :
    Stages settings random document (ofDocument settings random document) := by
  unfold ofDocument
  cases parsed : Declaration.parse document with
  | error errors => exact .unread parsed
  | ok declarations =>
      dsimp only
      rcases interpreted : (Interpreter.start settings.palette).interpretAll declarations with
        ⟨error | _, interpreter⟩
      · exact .unconstructed parsed (congrArg Prod.fst interpreted)
      · dsimp only
        rcases resolved : resolve settings.placement ⟨interpreter.registry, random⟩ with
          ⟨error | _, progress⟩
        · exact .unplaced parsed interpreted (congrArg Prod.fst resolved)
        · have placed : Stages settings random document _ :=
            .placed parsed interpreted (congrArg Prod.fst resolved)
          rwa [resolved] at placed

/-- A compilation whose figure is the resolved one of its declarations, and whose records are about
the entities of that figure. -/
structure Sound (palette : Palette) (compilation : Compilation α) : Prop where
  resolved : Resolved (construct palette compilation.declarations) compilation.registry
  shown : ∀ group ∈ compilation.animations, group.Nodup ∧
    ∀ id ∈ group, Names compilation.registry id
  count : compilation.targets.length = compilation.declarations.length
  targets : ∀ i declaration, compilation.declarations[i]? = some declaration →
    ∃ target, compilation.targets[i]? = some target ∧
      Recorded compilation.registry (construct palette (compilation.declarations.take i))
        declaration target

/-- What an interpreter has recorded after all declarations is about the figure that they build. -/
theorem records_of_interpretAll {palette : Palette} {declarations : List Declaration}
    {interpreter : Interpreter α}
    (interpreted : (Interpreter.start palette).interpretAll declarations = (.ok (), interpreter)) :
    Records palette interpreter declarations := by
  have interprets : ((Interpreter.start palette : Interpreter α).interpretAll declarations).1 =
      .ok () :=
    congrArg Prod.fst interpreted
  have all := (records_start palette).interpretAll interprets
  rwa [interpreted] at all

/-- The figure of a compilation is the resolved one of its declarations. -/
theorem resolve_of_ofDocument {settings : CompileSettings α} {random : σ} {document : String}
    {compilation : Compilation α}
    (compiles : ofDocument settings random document = .ok compilation) :
    let start : Progress σ α := ⟨construct settings.palette compilation.declarations, random⟩
    (resolve settings.placement start).1 = .ok () ∧
      compilation.registry = (resolve settings.placement start).2.registry := by
  have stages := stages settings random document
  rw [compiles] at stages
  cases stages with
  | placed parsed interpreted done =>
      rw [(records_of_interpretAll interpreted).registry] at done ⊢
      exact ⟨done, rfl⟩

/-- A document that compiles has been read, and its compilation is sound. -/
theorem sound_of_ofDocument {settings : CompileSettings α} {random : σ} {document : String}
    {compilation : Compilation α}
    (compiles : ofDocument settings random document = .ok compilation) :
    Declaration.parse document = .ok compilation.declarations ∧
      Sound settings.palette compilation := by
  have stages := stages settings random document
  rw [compiles] at stages
  cases stages with
  | @placed declarations interpreter parsed interpreted done =>
      refine ⟨parsed, ?_⟩
      have records := records_of_interpretAll interpreted
      rw [records.registry] at done ⊢
      have resolved := resolved_of_ok done
      have keeps : Registry.KeepsIds (construct settings.palette declarations) _ :=
        Registry.keepsIds_of_name fun named => (resolved.frame.sameNames.name _).trans named
      refine ⟨resolved, fun group member => ?_, ?_, fun i declaration stored => ?_⟩
      · obtain ⟨distinct, names⟩ := records.animation group member
        rw [records.registry] at names
        exact ⟨distinct, fun id known => (names id known).mono keeps⟩
      · exact (Array.length_toList ..).trans records.size
      · obtain ⟨target, known, recorded⟩ := records.targets i declaration stored
        rw [records.registry] at recorded
        exact ⟨target, by rwa [Array.getElem?_toList], recorded.mono keeps⟩

end Compilation

/-- A scene is what a document is compiled to if the document and its text can be. -/
theorem compile_eq_ok {settings : CompileSettings α} {random : σ} {document : String}
    {scene : Scene α} (compiles : compile settings random document = .ok scene) :
    ∃ compilation text, Compilation.ofDocument settings random document = .ok compilation ∧
      compilation.text? settings.annotated document = some text ∧
      scene = .assemble compilation.registry compilation.animations text := by
  unfold compile at compiles
  cases done : Compilation.ofDocument settings random document with
  | error error => simp [done] at compiles
  | ok compilation =>
      cases annotated : compilation.text? settings.annotated document with
      | none => simp [done, annotated] at compiles
      | some text =>
          obtain rfl : .assemble compilation.registry compilation.animations text = scene := by
            simpa [done, annotated] using compiles
          exact ⟨compilation, text, rfl, annotated, rfl⟩

end FigureMarkup
