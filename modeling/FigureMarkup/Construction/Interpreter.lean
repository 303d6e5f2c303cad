import FigureMarkup.Construction.Animation
import FigureMarkup.Construction.Declare

/-!
# Interpreting documents

The declarations of a document are applied in order to one registry. Next to it an interpreter
records the animation, and for each declaration the entity that it is mainly about.
-/

namespace FigureMarkup.Construction

open Figure Markup

structure Interpreter (α : Type) where
  registry : Registry α
  animation : Animation
  /-- The identifier of the main entity of each declaration that was applied, in order. -/
  targets : Array (Option String)

namespace Interpreter

variable {α : Type}

def start (palette : Palette) : Interpreter α := ⟨.empty palette, .empty, #[]⟩

/-- Record the outcome of a declaration. Moving a point shows nothing new. -/
def record (interpreter : Interpreter α) (declaration : Declaration) :
    Outcome → Interpreter α
  | .entities touched =>
      let ids := touched.map interpreter.registry.sceneId
      let targets := interpreter.targets.push ids.head?
      if DeclarationKind.ofName? declaration.kind = some .loc then
        { interpreter with targets }
      else
        { interpreter with targets, animation := interpreter.animation.touch ids }
  | .step =>
      { interpreter with
        targets := interpreter.targets.push none
        animation := interpreter.animation.step }
  | .clear =>
      { interpreter with
        targets := interpreter.targets.push none
        animation := interpreter.animation.clear }

/-- Apply one declaration. One that fails leaves its mark on the registry alone. -/
def interpret [Scalar α] (interpreter : Interpreter α) (declaration : Declaration) :
    Except Error Outcome × Interpreter α :=
  let (outcome, registry) := apply interpreter.registry declaration
  let interpreter := { interpreter with registry }
  match outcome with
  | .error error => (.error error, interpreter)
  | .ok outcome => (.ok outcome, interpreter.record declaration outcome)

/-- Apply declarations in order, up to the first that fails. -/
def interpretAll [Scalar α] (interpreter : Interpreter α) :
    List Declaration → Except Error Unit × Interpreter α
  | [] => (.ok (), interpreter)
  | declaration :: rest =>
      match interpreter.interpret declaration with
      | (.error error, interpreter) => (.error error, interpreter)
      | (.ok _, interpreter) => interpreter.interpretAll rest

end Interpreter

end FigureMarkup.Construction
