import FigureMarkup.Scalar

/-!
# Settings of drawings

How large a drawing is, how thick its strokes are, and how its text is laid out.
-/

namespace FigureMarkup.Drawing

structure Settings (α : Type) where
  size : α
  padding : α
  strokeWidth : α
  pointRadius : α
  labels : Bool
  /-- Whether each element is written on an indented line of its own. -/
  pretty : Bool
  /-- What the names of all classes start with. -/
  classStem : String

def Settings.standard {α : Type} [Scalar α] : Settings α where
  size := 400.0
  padding := 24.0
  strokeWidth := 2.0
  pointRadius := 3.5
  labels := true
  pretty := true
  classStem := "gs-"

def Settings.extent {α : Type} [Scalar α] (settings : Settings α) : α :=
  settings.size + 2.0 * settings.padding

end FigureMarkup.Drawing
