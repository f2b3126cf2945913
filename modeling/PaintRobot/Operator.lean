/-! The binary operators: how they are spelled and how tightly they bind. -/
namespace PaintRobot

inductive Operator where
  | or | and | equal | notEqual | less | lessEqual | greater | greaterEqual
  | plus | minus | times | divide | modulus | power
  deriving DecidableEq, Repr

namespace Operator

def text : Operator → String
  | or => "||"
  | and => "&&"
  | equal => "=="
  | notEqual => "!="
  | less => "<"
  | lessEqual => "<="
  | greater => ">"
  | greaterEqual => ">="
  | plus => "+"
  | minus => "-"
  | times => "*"
  | divide => "/"
  | modulus => "%"
  | power => "**"

/-- The number of characters of the spelling. -/
def length : Operator → Nat
  | or | and | equal | notEqual | lessEqual | greaterEqual | power => 2
  | less | greater | plus | minus | times | divide | modulus => 1

theorem length_text (op : Operator) : op.text.length = op.length := by
  cases op <;> rfl

theorem length_pos (op : Operator) : 0 < op.length := by
  cases op <;> decide

/-- A smaller number binds looser. -/
def precedence : Operator → Nat
  | or => 1
  | and => 2
  | equal | notEqual | less | lessEqual | greater | greaterEqual => 3
  | plus | minus => 4
  | times | divide | modulus => 5
  | power => 6

def ofPair? : Char → Char → Option Operator
  | '|', '|' => some or
  | '&', '&' => some and
  | '=', '=' => some equal
  | '!', '=' => some notEqual
  | '<', '=' => some lessEqual
  | '>', '=' => some greaterEqual
  | '*', '*' => some power
  | _, _ => none

def ofChar? : Char → Option Operator
  | '<' => some less
  | '>' => some greater
  | '+' => some plus
  | '-' => some minus
  | '*' => some times
  | '/' => some divide
  | '%' => some modulus
  | _ => none

/-- The characters of operators, `=`, `!`, `&` and `|` on their own among them. -/
def isOperatorChar (c : Char) : Bool := "+-*/%<>=!&|".toList.contains c

/-- The operator of one character after `before`. A plus or a minus with an operator before it, or
with nothing, is a sign and no operator. -/
def ofCharAfter? (before : Option Char) (c : Char) : Option Operator :=
  (ofChar? c).filter fun op => !((op == plus || op == minus) && before.all isOperatorChar)

/-- The operator with this spelling. -/
def ofText? (s : String) : Option Operator :=
  match s.toList with
  | [c] => ofChar? c
  | [c, d] => ofPair? c d
  | _ => none

end Operator

end PaintRobot
