import FigureMarkup.CommandLine.Options
import FigureMarkup.Compilation
import FigureMarkup.Drawing.Page

/-!
# The program

The program reads a palette and a document, compiles the document, and writes its scene as JSON, as
a drawing or as a page. What it needs from the system around it is given as a record, so that the
same program runs on files and on anything that behaves like them.
-/

namespace FigureMarkup.CommandLine

/-- The system on which the program runs. What fails there is told in words. -/
structure Host (m : Type → Type) where
  load : String → m (Except String String)
  loadInput : m (Except String String)
  save : String → String → m (Except String Unit)
  freshSeed : m UInt64

structure Response where
  code : UInt32
  output : String
  errors : String
deriving DecidableEq, Repr

inductive Failure where
  | unreadablePalette (path reason : String)
  | invalidPalette (path : String) (error : PaletteError)
  | unreadableFile (path reason : String)
  | unreadableInput (reason : String)
  | unwritableFile (path reason : String)
  | invalidDocument (error : CompileError) (report : Option String)

namespace Failure

def message : Failure → String
  | .unreadablePalette path reason =>
      "Error loading palette '" ++ path ++ "': Failed to read palette file: " ++ reason ++ "\n"
  | .invalidPalette path error =>
      "Error loading palette '" ++ path ++ "': " ++ error.message ++ "\n"
  | .unreadableFile path reason => "Error reading file '" ++ path ++ "': " ++ reason ++ "\n"
  | .unreadableInput reason => "Error reading from stdin: " ++ reason ++ "\n"
  | .unwritableFile path reason => "Error writing '" ++ path ++ "': " ++ reason ++ "\n"
  | .invalidDocument error report => report.getD (error.message ++ "\n")

/-- The exit code with which the program fails. An error that cannot be shown in the document has
a code of its own. -/
def code : Failure → UInt32
  | .invalidDocument _ none => 101
  | _ => 1

end Failure

def render (options : Options) (title : String) (scene : Scene Float) : String :=
  if options.svg then (Drawing.ofScene .standard scene).render
  else if options.html then Drawing.page title .standard scene
  else scene.pretty

variable {m : Type → Type} [Monad m]

def palette (host : Host m) (options : Options) : ExceptT Failure m Palette :=
  match options.palette with
  | none => return .standard
  | some path => do
      match ← host.load path with
      | .error reason => throw (.unreadablePalette path reason)
      | .ok text =>
          match Palette.read text with
          | .error error => throw (.invalidPalette path error)
          | .ok palette => return palette

/-- Read the document that was asked for, and tell its name. -/
def document (host : Host m) (options : Options) : ExceptT Failure m (String × String) :=
  match options.input with
  | some path => do
      match ← host.load path with
      | .error reason => throw (.unreadableFile path reason)
      | .ok text => return (text, path)
  | none => do
      match ← host.loadInput with
      | .error reason => throw (.unreadableInput reason)
      | .ok text => return (text, "<stdin>")

def stream (host : Host m) (options : Options) : ExceptT Failure m Random.Keystream :=
  match options.seed with
  | some seed => return .ofSeed seed
  | none => do
      let seed ← host.freshSeed
      return .ofSeed seed

/-- Compile the document that was asked for. The answer is what belongs on standard output. -/
def compileDocument (host : Host m) (options : Options) : ExceptT Failure m String := do
  let palette ← palette host options
  let (source, name) ← document host options
  let random ← stream host options
  match compile { CompileSettings.standard with palette } random source with
  | .error error => throw (.invalidDocument error (error.report? source name))
  | .ok scene =>
      let answer := render options name scene
      match options.output with
      | none => return answer ++ "\n"
      | some path =>
          match ← host.save path answer with
          | .error reason => throw (.unwritableFile path reason)
          | .ok () => return ""

def help : String :=
  "\n".intercalate
    ["Compile geometric-construction markup into a resolved scene",
      "",
      "Usage: geoscribe [OPTIONS] [INPUT]",
      "",
      "Arguments:",
      "  [INPUT]  Input file (reads from stdin if not provided)",
      "",
      "Options:",
      "  -o, --output <OUTPUT>    Output file (writes to stdout if not provided)",
      "      --html               Emit a standalone HTML page instead of scene JSON",
      "      --svg                Emit an SVG preview instead of scene JSON",
      "      --seed <SEED>        Seed for random placements, for reproducible output",
      "  -p, --palette <PALETTE>  Palette file for entity colors (TOML format)",
      "  -v, --verbose...         Log resolver activity to stderr (-v debug, -vv trace)",
      "  -h, --help               Print help",
      ""]

def run (host : Host m) (arguments : List String) : m Response :=
  match Request.read arguments with
  | .error error => return ⟨2, "", "error: " ++ error.message ++ "\n"⟩
  | .ok .help => return ⟨0, help, ""⟩
  | .ok (.compile options) => do
      match ← (compileDocument host options).run with
      | .ok output => return ⟨0, output, ""⟩
      | .error failure => return ⟨failure.code, "", failure.message⟩

end FigureMarkup.CommandLine
