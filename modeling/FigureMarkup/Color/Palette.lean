import FigureMarkup.Color.Rgba
import FigureMarkup.Toml.Reader

/-!
# Palettes

A palette gives new points one color and new circles another, and hands out the colors of a cycle
in turn to everything else that is drawn. Palettes are written as TOML documents.
-/

namespace FigureMarkup

structure Palette where
  name : Option String
  point : Rgba
  circle : Rgba
  /-- The colors that lines, polygons and angles get in turn. -/
  cycle : List Rgba
  /-- There is always a next color. -/
  cycle_ne_nil : cycle ≠ []

inductive PaletteError where
  | malformed
  | invalidColor (value : String)
  | emptyCycle
deriving DecidableEq, Repr

def PaletteError.message : PaletteError → String
  | .malformed => "Failed to parse palette TOML"
  | .invalidColor value => "invalid color '" ++ value ++ "'"
  | .emptyCycle => "palette color cycle is empty"

namespace Palette

open Toml

/-- The palette of those who choose none: accents on white points. -/
def standard : Palette where
  name := some "solarized"
  point := .ofChannels [0xFF, 0xFF, 0xFF]
  circle := .ofChannels [0xB1, 0x0D, 0xC9]
  cycle := [
    .ofChannels [0xDC, 0x32, 0x2F], .ofChannels [0x85, 0x99, 0x00],
    .ofChannels [0x65, 0x7B, 0x83], .ofChannels [0x26, 0x8B, 0xD2],
    .ofChannels [0x6C, 0x71, 0xC4], .ofChannels [0x2A, 0xA1, 0x98],
    .ofChannels [0xD3, 0x36, 0x82], .ofChannels [0x00, 0x2B, 0x36]]
  cycle_ne_nil := by simp

structure Entries where
  name : Option String
  point : String
  circle : String
  cycle : List String

def text? : Value → Option String
  | .string text => some text
  | _ => none

def texts? : Value → Option (List String)
  | .array items => items.mapM text?
  | _ => none

/-- The fields of a group: those of a table by their names, or those of an array by their places
in turn. A date counts as a group without fields. -/
def fields? (names : List String) : Value → Option (List (Option Value))
  | .table _ members => some (names.map (Members.get? members))
  | .moment _ => some (names.map fun _ => none)
  | .array items =>
      if names.length ≤ items.length then some ((items.take names.length).map some) else none
  | _ => none

/-- The name that the group `metadata` gives, if it gives one. -/
def metadataName? (metadata : Value) : Option (Option String) :=
  match fields? ["name"] metadata with
  | some [none] => some none
  | some [some name] => (text? name).map some
  | _ => none

/-- The colors that the group `colors` gives. -/
def colorEntries? (name : Option String) (colors : Value) : Option Entries :=
  match fields? ["point", "circle", "cycle"] colors with
  | some [some point, some circle, some cycle] => do
      let point ← text? point
      let circle ← text? circle
      let cycle ← texts? cycle
      return ⟨name, point, circle, cycle⟩
  | _ => none

/-- The texts of the palette that a document describes. What else stands in it does not count. -/
def entries? (document : Members) : Option Entries := do
  let name ←
    match Members.get? document "metadata" with
    | none => some none
    | some metadata => metadataName? metadata
  let colors ← Members.get? document "colors"
  colorEntries? name colors

def color (text : String) : Except PaletteError Rgba :=
  match Rgba.read? text with
  | some color => .ok color
  | none => .error (.invalidColor text)

/-- Turn texts into a palette. The cycle is read before the colors of points and circles. -/
def ofEntries (entries : Entries) : Except PaletteError Palette :=
  match entries.cycle.mapM color with
  | .error error => .error error
  | .ok [] => .error .emptyCycle
  | .ok (first :: rest) => do
      let point ← color entries.point
      let circle ← color entries.circle
      return ⟨entries.name, point, circle, first :: rest, by simp⟩

def read (text : String) : Except PaletteError Palette :=
  match (readDocument text).bind entries? with
  | some entries => ofEntries entries
  | none => .error .malformed

end Palette

/-- A palette, and where its cycle has come to. -/
structure ColorCycle where
  palette : Palette
  /-- The place of the next color in the cycle. -/
  next : Nat

namespace ColorCycle

def start (palette : Palette) : ColorCycle := ⟨palette, 0⟩

def color (colors : ColorCycle) : Rgba :=
  let cycle := colors.palette.cycle
  cycle.get ⟨colors.next % cycle.length,
    Nat.mod_lt _ (List.length_pos_iff.2 colors.palette.cycle_ne_nil)⟩

/-- Go on by one color, from the last one to the first. -/
def advance (colors : ColorCycle) : ColorCycle :=
  { colors with next := (colors.next + 1) % colors.palette.cycle.length }

end ColorCycle

end FigureMarkup
