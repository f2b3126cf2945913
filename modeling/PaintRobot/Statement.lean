import PaintRobot.Expr.Parse

/-!
Statements: what a line of a program says to do. A command names a verb and gives it parameters, a
jump names a label and gives a condition, and an assignment gives a variable a value.
-/
namespace PaintRobot

/-- A parameter of a command. Strings and integers that stand alone are kept apart. -/
inductive Param where
  | text (s : String)
  | int (n : Int32)
  | expr (e : Expr)

inductive Statement where
  | command (verb : Verb) (params : List Param)
  | goTo (label : String) (condition : Expr)
  | assign (name : String) (value : Expr)

/-- Reads a parameter without blanks around it. -/
def Param.parse (s : List Char) : Except Cause Param :=
  if s.isEmpty then .error .expectedParameter
  else
    match Form.quoted? s with
    | some inside => .ok (.text (String.ofList inside))
    | none =>
      match Number.integer? s with
      | some n => .ok (.int n)
      | none => (Expr.parse s).map .expr

namespace Statement

/-- The text after the word `goto` in any case, unless the word goes on. -/
def afterGoTo? (s : List Char) : Option (List Char) :=
  let rest := s.drop 4
  if Text.sameWord (s.take 4) "goto".toList && (rest.head?.all fun c => Text.isBlank c || c == '[')
  then some rest else none

/-- The condition of a jump, in parentheses; without one the jump is always made. -/
def parseCondition (s : List Char) : Except Cause Expr :=
  match s with
  | [] => .ok (.int 1)
  | '(' :: rest => do
    let (inside, tail) ← cutGroup rest
    if tail.isEmpty then Expr.parse inside else .error .expectedCondition
  | _ => .error .expectedCondition

/-- The label and the condition after the word of a jump. -/
def parseGoTo (s : List Char) : Except Cause Statement :=
  match Text.trimStart s with
  | '[' :: rest =>
    match rest.dropWhile (· != ']') with
    | [] => .error .expectedBracket
    | _ :: tail => do
      let label := Text.trim (rest.takeWhile (· != ']'))
      if Text.isLabel label then
        let condition ← parseCondition (Text.trim tail)
        return .goTo (String.ofList label) condition
      else .error (.invalidLabel (String.ofList label))
  | _ => .error .expectedLabel

/-- Cuts a text at its first arrow `<-`, and leaves the arrow out. -/
def cutArrow? : List Char → Option (List Char × List Char)
  | [] => none
  | c :: rest =>
    match c, rest with
    | '<', '-' :: tail => some ([], tail)
    | _, _ => (cutArrow? rest).map fun (name, value) => (c :: name, value)

/-- A name on the left of an arrow and an expression on its right. -/
def parseAssign (name value : List Char) : Except Cause Statement := do
  let name := Text.trim name
  if Text.isIdentifier name then
    let e ← Expr.parse value
    return .assign (String.ofList name) e
  else .error (.invalidVariable (String.ofList name))

/-- The command of a name, whose parameters have been read. -/
def ofVerbName (name : List Char) (params : List Param) : Except Cause Statement :=
  let written := String.ofList name
  if Text.isIdentifier name then
    match Verb.ofName? written with
    | some verb => .ok (.command verb params)
    | none => .error (.unknownCommand written)
  else .error (.invalidCommand written)

/-- A verb, and a group of parameters if it has any. -/
def parseCommand (s : List Char) : Except Cause Statement :=
  match s.dropWhile (· != '(') with
  | [] => ofVerbName s []
  | _ :: rest => do
    let (inside, tail) ← cutGroup rest
    if tail.isEmpty then
      let texts ← splitArguments inside
      let params ← texts.mapM Param.parse
      ofVerbName (Text.trim (s.takeWhile (· != '('))) params
    else .error .textAfterParameters

/-- Reads a statement. The word of a jump is looked for first, then an arrow. -/
def parse (s : List Char) : Except Cause Statement :=
  let s := Text.trim s
  match afterGoTo? s with
  | some rest => parseGoTo rest
  | none =>
    match cutArrow? s with
    | some (name, value) => parseAssign name value
    | none => parseCommand s

end Statement

end PaintRobot
