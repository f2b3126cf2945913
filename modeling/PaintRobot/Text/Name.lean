import PaintRobot.Text.Blank
import PaintRobot.Text.Letter
import PaintRobot.Text.Lowercase
import PaintRobot.Text.Numeral

/-!
The names of a program. An identifier names a variable, a command or a function; a label names
a line and may also carry hyphens. Labels are told apart by their keys.
-/
namespace PaintRobot.Text

/-- The characters an identifier may go on with. -/
def isWordChar (c : Char) : Bool := isLetter c || isNumeral c || c == '_'

/-- A letter, then letters, numerals and underscores. -/
def isIdentifier : List Char → Bool
  | [] => false
  | c :: rest => isLetter c && rest.all isWordChar

/-- A letter or a hyphen, then letters, numerals, underscores and hyphens. -/
def isLabel : List Char → Bool
  | [] => false
  | c :: rest => (isLetter c || c == '-') && rest.all fun d => isWordChar d || d == '-'

/-- Labels with one key are the same label. -/
def labelKey (s : List Char) : List Char := lowercase (trim s)

/-- Whether two texts differ at most in the case of their ASCII letters. -/
def sameWord (s t : List Char) : Bool := s.map Char.toLower == t.map Char.toLower

end PaintRobot.Text
