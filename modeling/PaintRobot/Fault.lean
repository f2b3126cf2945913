import PaintRobot.Number.Reading
import PaintRobot.Verb

/-!
What can go wrong. A cause says what happened; it has a code, under which its report is titled,
and a wording. A fault is a cause with the line of the program where it arose.
-/
namespace PaintRobot

/-- The kinds of faults. -/
inductive Code where
  | syntaxError | invalidLabel | unknownCommand
  | illegalFunctionCall | overflow | undefinedLabel | undefinedVariable | divisionByZero
  | typeMismatch | undefinedFunction | notSpawned | alreadySpawned | missingSpawn | outOfCanvas
  | invalidColor | interrupted | internalError
  deriving DecidableEq, Repr

namespace Code

def all : List Code :=
  [syntaxError, invalidLabel, unknownCommand, illegalFunctionCall, overflow, undefinedLabel,
    undefinedVariable, divisionByZero, typeMismatch, undefinedFunction, notSpawned,
    alreadySpawned, missingSpawn, outOfCanvas, invalidColor, interrupted, internalError]

def number : Code → Nat
  | syntaxError => 2
  | invalidLabel => 3
  | unknownCommand => 4
  | illegalFunctionCall => 5
  | overflow => 6
  | undefinedLabel => 8
  | undefinedVariable => 9
  | divisionByZero => 11
  | typeMismatch => 13
  | undefinedFunction => 18
  | notSpawned => 30
  | alreadySpawned => 31
  | missingSpawn => 32
  | outOfCanvas => 33
  | invalidColor => 34
  | interrupted => 40
  | internalError => 51

def title : Code → String
  | syntaxError => "SYNTAX ERROR"
  | invalidLabel => "INVALID LABEL"
  | unknownCommand => "UNKNOWN COMMAND"
  | illegalFunctionCall => "ILLEGAL FUNCTION CALL"
  | overflow => "OVERFLOW"
  | undefinedLabel => "UNDEFINED LABEL"
  | undefinedVariable => "UNDEFINED VARIABLE"
  | divisionByZero => "DIVISION BY ZERO"
  | typeMismatch => "TYPE MISMATCH"
  | undefinedFunction => "UNDEFINED FUNCTION"
  | notSpawned => "NOT SPAWNED"
  | alreadySpawned => "ALREADY SPAWNED"
  | missingSpawn => "MISSING SPAWN"
  | outOfCanvas => "OUT OF CANVAS"
  | invalidColor => "INVALID COLOR"
  | interrupted => "BREAK"
  | internalError => "INTERNAL ERROR"

/-- Whether such a fault is found while a line is read. All others arise while it runs. -/
def inReading : Code → Bool
  | syntaxError | invalidLabel | unknownCommand => true
  | _ => false

end Code

inductive Cause where
  | expectedExpression
  | expectedClosing
  | unbalanced
  | unterminatedText
  | invalidNumber (s : String)
  | invalidExpression (s : String)
  | expectedLabel
  | expectedBracket
  | expectedCondition
  | invalidLabel (name : String)
  | duplicateLabel (name : String)
  | invalidVariable (name : String)
  | expectedParameter
  | textAfterParameters
  | invalidCommand (name : String)
  | unknownCommand (name : String)
  | parameterCount (verb : Verb) (got : Nat)
  | expectedNumber (s : String)
  | expectedColorName
  | literalDirection (n : Int)
  | literalRange (what : Quantity) (n : Int)
  | undefinedLabel (name : String)
  | undefinedVariable (name : String)
  | undefinedFunction (name : String)
  | argumentCount (name : String) (takes got : Nat)
  | notANumber (s : String)
  | unorderedTexts
  | expectedColor
  | invalidColor (name : String)
  | divisionByZero
  | overflow
  | notSpawned (verb : Verb)
  | alreadySpawned
  | spawnOutside (x y : Int)
  | outside (x y : Int)
  | direction (n : Int)
  | negativeDistance (n : Int)
  | sizeNotPositive
  | radiusNotPositive
  | sidesNotPositive
  | neverSpawned
  | interrupted
  | internal
  deriving DecidableEq, Repr

namespace Cause

def code : Cause → Code
  | expectedExpression | expectedClosing | unbalanced | unterminatedText | invalidNumber _
  | invalidExpression _ | expectedLabel | expectedBracket | expectedCondition | duplicateLabel _
  | invalidVariable _ | expectedParameter | textAfterParameters | invalidCommand _
  | parameterCount .. | expectedNumber _ | expectedColorName | literalDirection _
  | literalRange .. => .syntaxError
  | invalidLabel _ => .invalidLabel
  | unknownCommand _ => .unknownCommand
  | undefinedLabel _ => .undefinedLabel
  | undefinedVariable _ => .undefinedVariable
  | undefinedFunction _ => .undefinedFunction
  | argumentCount .. | direction _ | negativeDistance _ | sizeNotPositive | radiusNotPositive
  | sidesNotPositive => .illegalFunctionCall
  | notANumber _ | unorderedTexts | expectedColor => .typeMismatch
  | invalidColor _ => .invalidColor
  | divisionByZero => .divisionByZero
  | overflow => .overflow
  | notSpawned _ => .notSpawned
  | alreadySpawned => .alreadySpawned
  | spawnOutside .. | outside .. => .outOfCanvas
  | neverSpawned => .missingSpawn
  | interrupted => .interrupted
  | internal => .internalError

/-- The coordinates of a point in parentheses. -/
def pairText (x y : Int) : String := "(" ++ toString x ++ ", " ++ toString y ++ ")"

def quotedText (s : String) : String := "\"" ++ s ++ "\""

def directionText (n : Int) : String := "DIRECTION " ++ toString n ++ " NOT -1, 0 OR 1"

/-- What the report says after the title; empty where the title says it all. -/
def text : Cause → String
  | expectedExpression => "EXPECTED EXPRESSION"
  | expectedClosing => "EXPECTED RIGHT PARENTHESIS"
  | unbalanced => "UNBALANCED PARENTHESES"
  | unterminatedText => "UNTERMINATED STRING"
  | invalidNumber s => "INVALID NUMBER " ++ s
  | invalidExpression s => "INVALID EXPRESSION " ++ s
  | expectedLabel => "EXPECTED [LABEL]"
  | expectedBracket => "EXPECTED ]"
  | expectedCondition => "EXPECTED (CONDITION)"
  | invalidLabel name => name
  | duplicateLabel name => "DUPLICATE LABEL " ++ name
  | invalidVariable name => "INVALID VARIABLE NAME " ++ name
  | expectedParameter => "EXPECTED PARAMETER"
  | textAfterParameters => "UNEXPECTED TEXT AFTER PARAMETERS"
  | invalidCommand name => "INVALID COMMAND " ++ name
  | unknownCommand name => name
  | parameterCount verb got =>
    verb.name ++ " EXPECTS " ++ toString verb.arity ++ " PARAMETERS, GOT " ++ toString got
  | expectedNumber s => "EXPECTED NUMBER, GOT " ++ quotedText s
  | expectedColorName => "EXPECTED QUOTED COLOR NAME"
  | literalDirection n | direction n => directionText n
  | literalRange what n => what.name ++ " " ++ toString n ++ " OUT OF RANGE"
  | undefinedLabel name | undefinedVariable name | undefinedFunction name => name
  | argumentCount name takes got =>
    name ++ " TAKES " ++ toString takes ++ " ARGUMENTS, GOT " ++ toString got
  | notANumber s => quotedText s ++ " IS NOT A NUMBER"
  | unorderedTexts => "STRINGS ONLY COMPARE WITH == AND !="
  | expectedColor => "EXPECTED COLOR NAME"
  | invalidColor name => name
  | divisionByZero | overflow | alreadySpawned | interrupted | internal => ""
  | notSpawned verb => verb.name ++ " BEFORE SPAWN"
  | spawnOutside x y => "SPAWN AT " ++ pairText x y
  | outside x y => pairText x y
  | negativeDistance n => "DISTANCE " ++ toString n ++ " IS NEGATIVE"
  | sizeNotPositive => "SIZE MUST BE POSITIVE"
  | radiusNotPositive => "RADIUS MUST BE POSITIVE"
  | sidesNotPositive => "WIDTH AND HEIGHT MUST BE POSITIVE"
  | neverSpawned => "PROGRAM NEVER CALLED SPAWN"

end Cause

theorem map_eq_ok_iff {α β : Type} {f : α → β} {x : Except Cause α} {b : β} :
    x.map f = .ok b ↔ ∃ a, x = .ok a ∧ f a = b := by
  cases x <;> simp [Except.map]

theorem bind_eq_ok_iff {α β : Type} {f : α → Except Cause β} {x : Except Cause α} {b : β} :
    x >>= f = .ok b ↔ ∃ a, x = .ok a ∧ f a = .ok b := by
  cases x <;> simp [bind, Except.bind]

/-- A cause and the line where it arose, counted from one. -/
structure Fault where
  cause : Cause
  line : Option Nat := none
  deriving DecidableEq, Repr

/-- A fault as it is shown. -/
structure Report where
  code : Code
  line : Option Nat := none
  text : String := ""
  deriving DecidableEq, Repr

def Fault.report (f : Fault) : Report := ⟨f.cause.code, f.line, f.cause.text⟩

namespace Report

/-- The title, the line and the text, as far as there are any. -/
def message (r : Report) : String :=
  r.code.title ++ (match r.line with | some n => " IN " ++ toString n | none => "") ++
    (if r.text.isEmpty then "" else "; " ++ r.text)

/-- The message in the form that names what it is. -/
def debugText (r : Report) : String := "Error \x7b " ++ r.message ++ " \x7d"

end Report

end PaintRobot
