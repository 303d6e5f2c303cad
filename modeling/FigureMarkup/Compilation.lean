import FigureMarkup.AnnotatedText
import FigureMarkup.Construction.Interpreter
import FigureMarkup.Placement.Resolver
import FigureMarkup.Report
import FigureMarkup.Scene.Assembly

/-!
# Compiling documents

A document becomes a scene in four stages: its declarations are read, applied to a figure, the
figure is placed, and its text is annotated. The first stage that fails gives the error.
-/

namespace FigureMarkup

open Construction Figure Markup Placement

inductive CompileError where
  | parse (errors : List ParseError)
  | construction (error : Construction.Error)
  | placement (error : PlacementError)
  | misplacedUnit
deriving DecidableEq, Repr

namespace CompileError

def message : CompileError → String
  | .parse errors => "parse errors: " ++ "; ".intercalate (errors.map ParseError.message)
  | .construction error => error.message
  | .placement error => error.message
  | .misplacedUnit => "a unit does not stand between characters"

/-- Report an error to readers at a terminal, if its place can be shown. -/
def report? (source filename : String) : CompileError → Option String
  | .parse errors =>
      (errors.mapM (Report.ofParseError? source filename)).map ("\n".intercalate ·)
  | .construction error => Report.ofError? source filename error
  | error => some ("Error: " ++ error.message ++ "\n")

end CompileError

/-- What compiling depends on apart from the document and the source of random numbers. -/
structure CompileSettings (α : Type) where
  placement : Placement.Settings α
  palette : Palette
  /-- Whether units give way to references in the text. -/
  annotated : Bool

def CompileSettings.standard {α : Type} [Scalar α] : CompileSettings α :=
  ⟨.standard, .standard, true⟩

structure Compilation (α : Type) where
  declarations : List Declaration
  registry : Registry α
  animations : List (List String)
  /-- The identifier of the entity that each declaration is about. -/
  targets : List (Option String)

namespace Compilation

variable {σ α : Type} [Scalar α] [Random.Source σ α]

/-- Read a document, and construct and place its figure. -/
def ofDocument (settings : CompileSettings α) (random : σ) (document : String) :
    Except CompileError (Compilation α) :=
  match Declaration.parse document with
  | .error errors => .error (.parse errors)
  | .ok declarations =>
      match (Interpreter.start settings.palette).interpretAll declarations with
      | (.error error, _) => .error (.construction error)
      | (.ok (), interpreter) =>
          match resolve settings.placement ⟨interpreter.registry, random⟩ with
          | (.error error, _) => .error (.placement error)
          | (.ok (), progress) =>
              .ok ⟨declarations, progress.registry, interpreter.animation.all,
                interpreter.targets.toList⟩

omit [Random.Source σ α] in
def text? (compilation : Compilation α) (annotated : Bool) (document : String) :
    Option String :=
  if annotated then
    AnnotatedText.annotate? document compilation.declarations compilation.targets
  else
    some document

end Compilation

def compile {σ α : Type} [Scalar α] [Random.Source σ α] (settings : CompileSettings α)
    (random : σ) (document : String) : Except CompileError (Scene α) :=
  match Compilation.ofDocument settings random document with
  | .error error => .error error
  | .ok compilation =>
      match compilation.text? settings.annotated document with
      | none => .error .misplacedUnit
      | some text => .ok (.assemble compilation.registry compilation.animations text)

end FigureMarkup
