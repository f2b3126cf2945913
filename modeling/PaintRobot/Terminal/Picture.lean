import PaintRobot.Canvas.Basic

/-! Pictures of a canvas: a letter for every cell, or a block in its color. -/
namespace PaintRobot

/-- Starts a sequence that changes how a terminal shows text. -/
def escape (codes : String) : String := "\x1b[" ++ codes ++ "m"

/-- Shows a text in some style and all that follows plainly. -/
def styled (codes text : String) : String := escape codes ++ text ++ escape "0"

/-- The terminal's code for a color. Orange and transparent are taken from the wider palette. -/
def Color.terminalCode : Color → String
  | .black => "30"
  | .red => "31"
  | .green => "32"
  | .yellow => "33"
  | .blue => "34"
  | .purple => "35"
  | .white => "37"
  | .orange => "38;5;208"
  | .transparent => "38;5;250"

/-- Two blanks on the color. -/
def Color.block (c : Color) : String := styled ("7;" ++ c.terminalCode) "  "

namespace Canvas

/-- A letter for each cell of a row. -/
def letters (row : List Color) : String := String.ofList (row.map Color.letter)

def blocks (row : List Color) : String := String.join (row.map Color.block)

/-- The rows of the canvas, each on a line. -/
def picture (c : Canvas) (plain : Bool) : String :=
  String.join (c.rows.map fun row => (if plain then letters row else blocks row) ++ "\n")

end Canvas

end PaintRobot
