import FigureMarkup.Proofs.Compilation.Stages
import FigureMarkup.Proofs.Strict.AnnotatedText
import FigureMarkup.Proofs.Strict.Construction
import FigureMarkup.Proofs.Strict.Markup
import FigureMarkup.Proofs.Strict.Resolution
import FigureMarkup.Proofs.Strict.Scene

/-!
# Strict compilation

A document is compiled by strict operations throughout: all entities that are looked up by number
are held, a name leads to an entity of its kind, text is cut between characters, the next color is
taken from a cycle that has one, lists have the elements that are taken from them, and numbers are
drawn from ranges that are filled. Whatever the document, the palette and the settings are, the
compilation has a result if the bound of free points is of ordinary size, and it is the usual one.
-/

namespace FigureMarkup

open Construction Figure Markup Placement

namespace Strict

variable {σ α : Type} [Scalar α] [Random.Source σ α]

/-- Read a document, and construct and place its figure. -/
def ofDocument (settings : CompileSettings α) (random : σ) (document : String) :
    Option (Except CompileError (Compilation α)) := do
  match ← parse document with
  | .error errors => return .error (.parse errors)
  | .ok declarations =>
      match ← interpretAll (.start settings.palette) declarations with
      | (.error error, _) => return .error (.construction error)
      | (.ok (), interpreter) =>
          match ← resolve settings.placement ⟨interpreter.registry, random⟩ with
          | (.error error, _) => return .error (.placement error)
          | (.ok (), progress) =>
              return .ok ⟨declarations, progress.registry, interpreter.animation.all,
                interpreter.targets.toList⟩

def compile (settings : CompileSettings α) (random : σ) (document : String) :
    Option (Except CompileError (Scene α)) := do
  match ← ofDocument settings random document with
  | .error error => return .error error
  | .ok compilation =>
      let text ←
        if settings.annotated then
          annotate document compilation.declarations compilation.targets
        else
          some document
      return .ok (← assemble compilation.registry compilation.animations text)

/-- A document that is interpreted, up to some declaration that fails or to its end, leaves a
well-formed registry. -/
theorem wellFormed_of_interpretAll {palette : Palette} {declarations : List Declaration}
    {outcome : Except Construction.Error Unit} {interpreter : Interpreter α}
    (interpreted : (Interpreter.start palette).interpretAll declarations =
      (outcome, interpreter)) : WellFormed interpreter.registry := by
  obtain ⟨applied, -, built, -⟩ :=
    registry_interpretAll (Interpreter.start palette : Interpreter α) declarations
  rw [interpreted] at built
  rw [built]
  exact wellFormed_construct palette applied

variable {settings : CompileSettings α} (filled : Filled σ settings.placement)

include filled

theorem ofDocument_eq (random : σ) (document : String) :
    ofDocument settings random document =
      some (Compilation.ofDocument settings random document) := by
  rw [ofDocument, Compilation.ofDocument, parse_eq]
  dsimp only [Option.bind_eq_bind, Option.bind_some]
  cases Declaration.parse document with
  | error errors => rfl
  | ok declarations =>
      dsimp only
      rw [interpretAll_eq (wellFormed_empty settings.palette)]
      rcases interpreted : (Interpreter.start settings.palette).interpretAll declarations with
        ⟨error | _, interpreter⟩
      · rfl
      · dsimp only [Option.bind_some]
        rw [resolve_eq filled (wellFormed_of_interpretAll interpreted)]
        rcases Placement.resolve settings.placement ⟨interpreter.registry, random⟩ with
          ⟨error | _, progress⟩
        · rfl
        · rfl

/-- Compiling a document always has a result, and it is the usual one. -/
theorem compile_eq (random : σ) (document : String) :
    compile settings random document = some (FigureMarkup.compile settings random document) := by
  rw [compile, FigureMarkup.compile, ofDocument_eq filled]
  dsimp only [Option.bind_eq_bind, Option.bind_some]
  cases compiled : Compilation.ofDocument settings random document with
  | error error => rfl
  | ok compilation =>
      obtain ⟨read, sound⟩ := Compilation.sound_of_ofDocument compiled
      obtain ⟨same, annotated⟩ := annotate_eq read compilation.targets
      obtain ⟨text, written⟩ := Option.isSome_iff_exists.1 annotated
      have formed := sound.resolved.formed
      cases wanted : settings.annotated with
      | true =>
          simp [Compilation.text?, same, written, assemble_eq formed]
      | false =>
          simp [Compilation.text?, assemble_eq formed]

end Strict

/-- No partial operation of a compilation and of drawing its scene lacks a result: neither for any
document, nor for any settings of which the bound of free points is of ordinary size. A palette
can be read from any text, or the error reported. -/
theorem compile_defined (settings : CompileSettings Float)
    (bounded : settings.placement.bound.abs ≤ 1e300) (random : Random.Keystream)
    (document paletteText : String) (drawing : Drawing.Settings Float) :
    Strict.readPalette paletteText = some (Palette.read paletteText) ∧
      Strict.compile settings random document = some (compile settings random document) ∧
      ∀ scene, compile settings random document = .ok scene →
        Strict.drawing drawing scene = some (.ofScene drawing scene) :=
  ⟨Strict.readPalette_eq paletteText,
    Strict.compile_eq (Strict.filled_of_bounded bounded) random document,
    fun scene _ => Strict.drawing_eq drawing scene⟩

/-- The bound is as large as it may be, tolerance and padding are no numbers, two units share a
line, and a character of the prose is wide. -/
theorem compile_defined_extreme :
    let settings : CompileSettings Float :=
      ⟨⟨-1e300, 0.0 / 0.0, 0.0 / 0.0⟩, .standard, true⟩
    let document := "é [polygon ABC] [point D lieson=\"polygon ABC\" color=#ff00ff]\n" ++
      "  [loc E 1 2][loc F 3 4]\n[circle c center=D radius=AB]\n"
    let random := Random.Keystream.ofSeed 1
    settings.placement.bound.abs ≤ 1e300 ∧
      ∃ scene, Strict.compile settings random document = some (.ok scene) ∧
        Strict.drawing .standard scene = some (Drawing.ofScene .standard scene) := by
  intro settings document random
  have bounded : settings.placement.bound.abs ≤ 1e300 := by decide +kernel
  have done : (compile settings random document).toOption.isSome = true := by decide +kernel
  cases compiled : compile settings random document with
  | error error =>
      rw [compiled] at done
      cases done
  | ok scene =>
      obtain ⟨-, defined, drawn⟩ :=
        compile_defined settings bounded random document "" Drawing.Settings.standard
      exact ⟨bounded, scene, defined.trans (congrArg some compiled), drawn scene compiled⟩

end FigureMarkup
