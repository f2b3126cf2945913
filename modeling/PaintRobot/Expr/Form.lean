import PaintRobot.Expr.Basic
import PaintRobot.Expr.Nesting
import PaintRobot.Number.Reading
import PaintRobot.Text.Name

/-!
The form of an expression's text: what it is at its outermost level, and the texts of its parts.
The parts are always shorter than the text.
-/
namespace PaintRobot

/-- What a text is: an expression without parts, the same as its part, its part subtracted from
zero, or a call or an operator with the texts of its operands. -/
inductive Form where
  | leaf (e : Expr)
  | same (part : List Char)
  | negated (part : List Char)
  | call (name : String) (args : List (List Char))
  | binary (op : Operator) (l r : List Char)

namespace Form

/-- The texts that are expressions themselves. -/
def parts : Form → List (List Char)
  | leaf _ => []
  | same part | negated part => [part]
  | call _ args => args
  | binary _ l r => [l, r]

/-- The inside of a text that is one group in parentheses. -/
def enclosed? : List Char → Except Cause (Option (List Char))
  | '(' :: rest => do
    let (inside, tail) ← cutGroup rest
    return if tail.isEmpty then some inside else none
  | _ => .ok none

/-- A text that is an identifier and a group. -/
def call? (s : List Char) : Except Cause (Option Form) :=
  let name := Text.trim (s.takeWhile (· != '('))
  match s.dropWhile (· != '(') with
  | [] => .ok none
  | _ :: rest =>
    if s.getLast? == some ')' && Text.isIdentifier name then do
      let (inside, tail) ← cutGroup rest
      if tail.isEmpty then return some (.call (String.ofList name) (← splitArguments inside))
      else return none
    else .ok none

/-- The inside of a text that is one string in quotes. -/
def quoted? : List Char → Option (List Char)
  | '"' :: rest =>
    if rest.dropWhile (· != '"') = ['"'] then some (rest.takeWhile (· != '"')) else none
  | _ => none

/-- Whether a text can only be a number. -/
def startsNumber : List Char → Bool
  | c :: _ => c.isDigit || c == '.'
  | [] => false

def number (s : List Char) : Except Cause Form :=
  match Number.real? s with
  | some x => .ok (.leaf (.real x))
  | none => .error (.invalidNumber (String.ofList s))

/-- A text behind a sign, or a variable. -/
def signedOrNamed : List Char → Except Cause Form
  | '-' :: rest => .ok (.negated rest)
  | '+' :: rest => .ok (.same rest)
  | s =>
    if Text.isIdentifier s then .ok (.leaf (.var (String.ofList s)))
    else .error (.invalidExpression (String.ofList s))

/-- A text without outer operators: a truth value, a number, a string, or a sign or name. -/
def ofAtom (s : List Char) : Except Cause Form :=
  if Text.sameWord s "true".toList then .ok (.leaf (.int 1))
  else if Text.sameWord s "false".toList then .ok (.leaf (.int 0))
  else
    match Number.integer? s with
    | some n => .ok (.leaf (.int n))
    | none =>
      if startsNumber s then number s
      else
        match quoted? s with
        | some inside => .ok (.leaf (.text (String.ofList inside)))
        | none => signedOrNamed s

/-- The form of a text with no blanks around it: a group, a call, operands of an operator, or an
atom. -/
def ofTrimmed (s : List Char) : Except Cause Form := do
  if s.isEmpty then throw .expectedExpression
  if let some inside ← enclosed? s then return .same inside
  if let some form ← call? s then return form
  if let some (i, op) ← loosestOperator s then
    return .binary op (s.take i) (s.drop (i + op.length))
  ofAtom s

def ofText (s : List Char) : Except Cause Form := ofTrimmed (Text.trim s)

theorem length_enclosed? {s inside : List Char} (h : enclosed? s = .ok (some inside)) :
    inside.length < s.length := by
  unfold enclosed? at h
  split at h
  · obtain ⟨⟨p, t⟩, hc, he⟩ := bind_eq_ok_iff.mp h
    have := length_cutGroup hc
    simp only [pure, Except.pure] at he
    grind
  · cases h

theorem length_call? {s : List Char} {f : Form} (h : call? s = .ok (some f)) :
    ∀ p ∈ f.parts, p.length < s.length := by
  unfold call? at h
  simp only at h
  split at h
  · cases h
  · rename_i c rest hs
    have hl : rest.length < s.length := by
      have := (List.dropWhile_sublist (· != '(') (l := s)).length_le
      rw [hs] at this
      exact this
    split at h
    · obtain ⟨⟨inside, tail⟩, hc, he⟩ := bind_eq_ok_iff.mp h
      have := length_cutGroup hc
      simp only at he
      split at he
      · obtain ⟨args, ha, he⟩ := bind_eq_ok_iff.mp he
        have := length_le_of_mem_splitArguments ha
        cases he
        intro p hp
        have := this p hp
        omega
      · cases he
    · cases h

theorem length_ofAtom {s : List Char} {f : Form} (h : ofAtom s = .ok f) :
    ∀ p ∈ f.parts, p.length < s.length := by
  unfold ofAtom number signedOrNamed at h
  grind [parts]

/-- Every part of a text is shorter than the text. -/
theorem length_lt_of_mem_parts {s : List Char} {f : Form} (h : ofText s = .ok f) :
    ∀ p ∈ f.parts, p.length < s.length := by
  have hl := Text.length_trim_le s
  unfold ofText ofTrimmed at h
  generalize Text.trim s = t at h hl
  suffices ∀ p ∈ f.parts, p.length < t.length from fun p hp => Nat.lt_of_lt_of_le (this p hp) hl
  split at h
  · cases h
  obtain ⟨_ | inside, he, h⟩ := bind_eq_ok_iff.mp h
  · obtain ⟨_ | form, hc, h⟩ := bind_eq_ok_iff.mp h
    · obtain ⟨_ | ⟨i, op⟩, hp, h⟩ := bind_eq_ok_iff.mp h
      · exact length_ofAtom h
      · have hi := place_lt_of_loosestOperator hp
        have := op.length_pos
        cases h
        simp only [parts, List.mem_cons, List.not_mem_nil, or_false]
        rintro p (rfl | rfl) <;> simp only [List.length_take, List.length_drop] <;> omega
    · cases h
      exact length_call? hc
  · cases h
    have := length_enclosed? he
    simp [parts, this]

end Form

end PaintRobot
