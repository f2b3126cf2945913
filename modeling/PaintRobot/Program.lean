import PaintRobot.Line
import PaintRobot.Table

/-!
Programs: the lines of a source and a table of its labels. A source with a bad label, or with one
label on two lines, is no program.
-/
namespace PaintRobot

structure Program where
  lines : Array Line := #[]
  /-- The key and the line of every label, counted from zero. -/
  labels : Table (List Char) Nat := {}

namespace Program

def size (p : Program) : Nat := p.lines.size

def isEmpty (p : Program) : Bool := p.lines.isEmpty

/-- The line of a label, counted from zero. -/
def label? (p : Program) (name : String) : Option Nat :=
  p.labels.get? (Text.labelKey name.toList)

/-- Adds a label on line `i` to a table, unless its name is bad or its key is there already. -/
def addLabel (labels : Table (List Char) Nat) (name : List Char) (i : Nat) :
    Except Cause (Table (List Char) Nat) :=
  let key := Text.labelKey name
  if !Text.isLabel name then .error (.invalidLabel (String.ofList name))
  else if (labels.get? key).isSome then .error (.duplicateLabel (String.ofList name))
  else .ok (labels.store key i)

/-- Adds the labels of lines that begin at line `i` to a table. The first bad one fails. -/
def collectLabels (labels : Table (List Char) Nat) (i : Nat) :
    List Line → Except Fault (Table (List Char) Nat)
  | [] => .ok labels
  | l :: rest =>
    match l.kind with
    | .label name =>
      match addLabel labels name i with
      | .ok more => collectLabels more (i + 1) rest
      | .error cause => .error ⟨cause, some (i + 1)⟩
    | _ => collectLabels labels (i + 1) rest

/-- A program of these lines. -/
def ofLines (lines : List Line) : Except Fault Program :=
  (collectLabels {} 0 lines).map fun labels => ⟨lines.toArray, labels⟩

/-- Reads the source of a program. -/
def load (source : String) : Except Fault Program :=
  ofLines ((Line.split source.toList).map Line.ofText)

end Program

end PaintRobot
