import PaintRobot.Text.Name

/-! The palette: the only colors a program can name. -/
namespace PaintRobot

inductive Color where
  | red | blue | green | yellow | orange | purple | black | white | transparent
  deriving DecidableEq, Repr

namespace Color

def palette : List Color :=
  [red, blue, green, yellow, orange, purple, black, white, transparent]

def name : Color → String
  | red => "Red"
  | blue => "Blue"
  | green => "Green"
  | yellow => "Yellow"
  | orange => "Orange"
  | purple => "Purple"
  | black => "Black"
  | white => "White"
  | transparent => "Transparent"

/-- The color of a name, in any case of its letters and with blanks around it. -/
def ofName? (s : String) : Option Color :=
  palette.find? fun c => Text.sameWord c.name.toList (Text.trim s.toList)

/-- The letter of a cell of this color in a plain picture. -/
def letter : Color → Char
  | red => 'R'
  | blue => 'B'
  | green => 'G'
  | yellow => 'Y'
  | orange => 'O'
  | purple => 'P'
  | black => 'K'
  | white => '.'
  | transparent => ' '

theorem mem_palette (c : Color) : c ∈ palette := by
  cases c <;> decide

theorem letter_injective {c d : Color} (h : c.letter = d.letter) : c = d := by
  revert h
  cases c <;> cases d <;> decide

end Color

end PaintRobot
