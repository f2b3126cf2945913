import PaintRobot.Statement

/-! The lines of a program: blank ones, labels, and lines of code. -/
namespace PaintRobot

structure Line where
  text : List Char
  deriving DecidableEq, Repr

namespace Line

inductive Kind where
  | blank
  | label (name : List Char)
  | code
  deriving DecidableEq, Repr

def isLineEnd (c : Char) : Bool := c == '\r' || c == '\n'

/-- A line without the line ends behind it. -/
def ofText (s : List Char) : Line := ⟨(s.reverse.dropWhile isLineEnd).reverse⟩

/-- A label is a text without blanks that ends in a colon. -/
def kind (l : Line) : Kind :=
  let s := Text.trim l.text
  if s.isEmpty then .blank
  else if s.getLast? == some ':' && !s.any Text.isBlank then .label s.dropLast
  else .code

def statement (l : Line) : Except Cause Statement := Statement.parse l.text

/-- The texts between line feeds; nothing follows a line feed at the end. -/
def split : List Char → List (List Char)
  | [] => []
  | c :: rest =>
    if c = '\n' then [] :: split rest
    else
      match split rest with
      | first :: others => (c :: first) :: others
      | [] => [[c]]

end Line

end PaintRobot
