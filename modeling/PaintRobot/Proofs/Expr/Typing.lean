import PaintRobot.Expr.Eval

/-!
The types of expressions. In a state that gives its variables their types, a well-typed expression
has a value of its type, unless what its operands and arguments come to stands in the way: a divisor
of zero, a number that is no integer of thirty-two bits, a name that is not one of a color.
-/
namespace PaintRobot

inductive ValueType where
  | number | text
  deriving DecidableEq, Repr

def Value.type : Value → ValueType
  | int _ | real _ => .number
  | text _ => .text

/-- Whether an operator needs numbers on both sides. The others take values of any types. -/
def Operator.needsNumbers : Operator → Bool
  | less | lessEqual | greater | greaterEqual | plus | minus | times | divide | modulus
  | power => true
  | or | and | equal | notEqual => false

/-- The types of the arguments of a function. What it gives is a number. -/
def Builtin.argumentTypes : Builtin → List ValueType
  | actualX | actualY | canvasSize => []
  | colorCount => [.text, .number, .number, .number, .number]
  | isBrushColor => [.text]
  | isBrushSize => [.number]
  | isCanvasColor => [.text, .number, .number]

namespace Expr

mutual

/-- An expression has a type in a state. -/
inductive HasType (s : State) : Expr → ValueType → Prop where
  | int (n : Int32) : HasType s (.int n) .number
  | real (x : Float) : HasType s (.real x) .number
  | text (t : String) : HasType s (.text t) .text
  | var {name : String} {v : Value} (hv : s.vars.get? name = some v) :
      HasType s (.var name) v.type
  | numbers {op : Operator} {l r : Expr} (hop : op.needsNumbers = true)
      (hl : HasType s l .number) (hr : HasType s r .number) : HasType s (.binary op l r) .number
  | values {op : Operator} {l r : Expr} {t u : ValueType} (hop : op.needsNumbers = false)
      (hl : HasType s l t) (hr : HasType s r u) : HasType s (.binary op l r) .number
  | call {name : String} {args : List Expr} {f : Builtin}
      (hf : Text.sameWord f.name.toList name.toList = true)
      (hargs : HaveTypes s args f.argumentTypes) : HasType s (.call name args) .number

/-- Expressions have types, one for each. -/
inductive HaveTypes (s : State) : List Expr → List ValueType → Prop where
  | nil : HaveTypes s [] []
  | cons {e : Expr} {es : List Expr} {t : ValueType} {ts : List ValueType} (he : HasType s e t)
      (hes : HaveTypes s es ts) : HaveTypes s (e :: es) (t :: ts)

end

end Expr

/-- The cause lies in what some values are and not in their types. -/
def Cause.InValues (cause : Cause) : Prop :=
  cause.code = .divisionByZero ∨ cause.code = .overflow ∨ cause.code = .invalidColor

/-- The result is one of this kind, or has failed for what some values are. -/
def Yields {α : Type} (kind : α → Prop) (x : Except Cause α) : Prop :=
  (∃ a, x = .ok a ∧ kind a) ∨ ∃ cause, x = .error cause ∧ cause.InValues

namespace Yields

variable {α β : Type} {kind : α → Prop} {other : β → Prop}

theorem ok {a : α} (h : kind a) : Yields kind (.ok a) := .inl ⟨a, rfl, h⟩

theorem error {cause : Cause} (h : cause.InValues) : Yields kind (.error cause) :=
  .inr ⟨cause, rfl, h⟩

theorem bind {x : Except Cause α} {f : α → Except Cause β} (hx : Yields kind x)
    (hf : ∀ a, kind a → Yields other (f a)) : Yields other (x >>= f) := by
  rcases hx with ⟨a, rfl, ha⟩ | ⟨cause, rfl, hcause⟩
  · exact hf a ha
  · exact .error hcause

end Yields

/-! ### Values -/

namespace Value

variable {v l r : Value}

theorem type_ofBool (b : Bool) : (ofBool b).type = .number := rfl

theorem isText_eq_false_iff : v.isText = false ↔ v.type = .number := by
  cases v <;> simp [isText, type]

theorem exists_toReal (hv : v.type = .number) : ∃ x, v.toReal = .ok x := by
  cases v with
  | int | real => exact ⟨_, rfl⟩
  | text => cases hv

theorem yields_toInt (hv : v.type = .number) : Yields (fun _ => True) v.toInt := by
  cases v with
  | int n => exact .ok trivial
  | real x =>
    simp only [toInt, toInteger, narrow]
    split
    · split
      · exact .ok trivial
      · exact .error (.inr (.inl rfl))
    · exact .error (.inr (.inl rfl))
  | text => cases hv

/-- Values of any types can be compared for being the same. -/
theorem exists_sameAs (l r : Value) : ∃ b, l.sameAs r = .ok b := by
  unfold sameAs
  split
  · exact ⟨_, rfl⟩
  · rename_i hnumbers
    rw [Bool.not_eq_true, Bool.or_eq_false_iff, isText_eq_false_iff, isText_eq_false_iff]
      at hnumbers
    obtain ⟨x, hx⟩ := exists_toReal hnumbers.1
    obtain ⟨y, hy⟩ := exists_toReal hnumbers.2
    exact ⟨x == y, by rw [hx, hy]; rfl⟩

theorem ordered_eq_ok (hl : l.type = .number) (hr : r.type = .number)
    (test : Float → Float → Bool) : ∃ b, l.ordered test r = .ok (ofBool b) := by
  obtain ⟨x, hx⟩ := exists_toReal hl
  obtain ⟨y, hy⟩ := exists_toReal hr
  have hltext := isText_eq_false_iff.mpr hl
  have hrtext := isText_eq_false_iff.mpr hr
  exact ⟨test x y, by rw [ordered, hltext, hrtext, hx, hy]; rfl⟩

theorem arithmetic_eq_ok (hl : l.type = .number) (hr : r.type = .number)
    (f : Float → Float → Float) : ∃ x, l.arithmetic f r = .ok (.real x) := by
  obtain ⟨x, hx⟩ := exists_toReal hl
  obtain ⟨y, hy⟩ := exists_toReal hr
  exact ⟨f x y, by rw [arithmetic, hx, hy]; rfl⟩

theorem yields_division (hl : l.type = .number) (hr : r.type = .number)
    (f : Float → Float → Float) : Yields (·.type = .number) (l.division f r) := by
  obtain ⟨x, hx⟩ := exists_toReal hl
  obtain ⟨y, hy⟩ := exists_toReal hr
  rw [division, hx, hy]
  simp only [bind, Except.bind]
  split
  · exact .error (.inl rfl)
  · exact .ok rfl

end Value

namespace Operator

variable {op : Operator} {l r : Value}

theorem yields_apply_numbers (hop : op.needsNumbers = true) (hl : l.type = .number)
    (hr : r.type = .number) : Yields (·.type = .number) (op.apply l r) := by
  cases op with
  | less | lessEqual | greater | greaterEqual =>
    obtain ⟨b, hb⟩ := Value.ordered_eq_ok hl hr _
    rw [apply, hb]
    exact .ok (Value.type_ofBool b)
  | plus | minus | times | power =>
    obtain ⟨x, hx⟩ := Value.arithmetic_eq_ok hl hr _
    rw [apply, hx]
    exact .ok rfl
  | divide | modulus => exact Value.yields_division hl hr _
  | or | and | equal | notEqual => cases hop

theorem yields_apply_values (hop : op.needsNumbers = false) (l r : Value) :
    Yields (·.type = .number) (op.apply l r) := by
  cases op with
  | or | and => exact .ok rfl
  | equal | notEqual =>
    obtain ⟨b, hb⟩ := Value.exists_sameAs l r
    rw [apply, hb]
    exact .ok rfl
  | _ => cases hop

end Operator

/-! ### Functions -/

namespace Builtin

/-- The functions have different names, also in one case. -/
theorem ofName?_of_sameWord {f : Builtin} {name : String}
    (h : Text.sameWord f.name.toList name.toList = true) : ofName? name = some f := by
  have hsame : ∀ g : Builtin, Text.sameWord g.name.toList name.toList =
      Text.sameWord g.name.toList f.name.toList := by
    intro g
    rw [Text.sameWord, Text.sameWord, eq_of_beq h]
  simp only [ofName?, hsame]
  cases f <;> decide

theorem yields_colorOf {v : Value} (hv : v.type = .text) : Yields (fun _ => True) (colorOf v) := by
  cases v with
  | int | real => cases hv
  | text s =>
    rw [colorOf]
    split
    · exact .ok trivial
    · exact .error (.inr (.inr rfl))

theorem yields_apply {f : Builtin} {args : List Value} (h : args.map Value.type = f.argumentTypes)
    (s : State) (called : String) : Yields (·.type = .number) (f.apply s called args) := by
  cases f with
  | actualX | actualY | canvasSize =>
    obtain rfl := List.map_eq_nil_iff.mp h
    exact .ok rfl
  | colorCount =>
    simp only [argumentTypes, List.map_eq_cons_iff, List.map_eq_nil_iff] at h
    obtain ⟨color, _, rfl, hcolor, x₁, _, rfl, hx₁, y₁, _, rfl, hy₁, x₂, _, rfl, hx₂, y₂, _, rfl,
      hy₂, rfl⟩ := h
    refine (yields_colorOf hcolor).bind fun _ _ => ?_
    refine (Value.yields_toInt hx₁).bind fun _ _ => ?_
    refine (Value.yields_toInt hy₁).bind fun _ _ => ?_
    refine (Value.yields_toInt hx₂).bind fun _ _ => ?_
    exact (Value.yields_toInt hy₂).bind fun _ _ => .ok rfl
  | isBrushColor =>
    obtain ⟨color, _, rfl, hcolor, hnil⟩ := List.map_eq_cons_iff.mp h
    obtain rfl := List.map_eq_nil_iff.mp hnil
    exact (yields_colorOf hcolor).bind fun _ _ => .ok rfl
  | isBrushSize =>
    obtain ⟨size, _, rfl, hsize, hnil⟩ := List.map_eq_cons_iff.mp h
    obtain rfl := List.map_eq_nil_iff.mp hnil
    exact (Value.yields_toInt hsize).bind fun _ _ => .ok rfl
  | isCanvasColor =>
    simp only [argumentTypes, List.map_eq_cons_iff, List.map_eq_nil_iff] at h
    obtain ⟨color, _, rfl, hcolor, dy, _, rfl, hdy, dx, _, rfl, hdx, rfl⟩ := h
    refine (yields_colorOf hcolor).bind fun _ _ => ?_
    refine (Value.yields_toInt hdy).bind fun _ _ => ?_
    exact (Value.yields_toInt hdx).bind fun _ _ => .ok rfl

/-- What a function gives, by the places of its arguments. Each place is one that its arity has. -/
def read (s : State) : (f : Builtin) → (Fin f.arity → Value) → Except Cause Value
  | actualX, _ => .ok (.ofInt s.cursor.position.x)
  | actualY, _ => .ok (.ofInt s.cursor.position.y)
  | canvasSize, _ => .ok (.ofInt s.canvas.side)
  | colorCount, arg => do
    let color ← colorOf (arg (0 : Fin 5))
    let x₁ ← (arg (1 : Fin 5)).toInt
    let y₁ ← (arg (2 : Fin 5)).toInt
    let x₂ ← (arg (3 : Fin 5)).toInt
    let y₂ ← (arg (4 : Fin 5)).toInt
    return .ofInt (s.canvas.count color ⟨x₁, y₁⟩ ⟨x₂, y₂⟩)
  | isBrushColor, arg => return .ofBool (s.brush.color == (← colorOf (arg (0 : Fin 1))))
  | isBrushSize, arg => return .ofBool (s.brush.size == (← (arg (0 : Fin 1)).toInt))
  | isCanvasColor, arg => do
    let color ← colorOf (arg (0 : Fin 3))
    let dy ← (arg (1 : Fin 3)).toInt
    let dx ← (arg (2 : Fin 3)).toInt
    let p := s.cursor.position
    return .ofBool (s.canvas.get? ⟨p.x + dx, p.y + dy⟩ == some color)

/-- A function looks at its arguments only once it has as many as it takes. -/
theorem apply_eq_read (s : State) (called : String) (f : Builtin) (args : List Value) :
    f.apply s called args =
      if h : args.length = f.arity then f.read s fun i => args[i]
      else .error (.argumentCount called f.arity args.length) := by
  split
  · rename_i h
    cases f with
    | actualX | actualY | canvasSize =>
      match args, h with
      | [], _ => rfl
    | isBrushColor | isBrushSize =>
      match args, h with
      | [_], _ => rfl
    | isCanvasColor =>
      match args, h with
      | [_, _, _], _ => rfl
    | colorCount =>
      match args, h with
      | [_, _, _, _, _], _ => rfl
  · rename_i h
    unfold apply
    split
    any_goals exact absurd rfl h
    rfl

end Builtin

/-! ### Expressions -/

theorem Variables.fetch_eq_ok {vs : Variables} {name : String} {v : Value}
    (h : vs.get? name = some v) : vs.fetch name = .ok v := by
  rw [fetch, h]

namespace Expr

variable {s : State}

mutual

theorem yields_eval {e : Expr} {t : ValueType} (h : HasType s e t) :
    Yields (·.type = t) (e.eval s) := by
  cases h with
  | int | real | text => exact .ok rfl
  | var hv =>
    rw [eval, Variables.fetch_eq_ok hv]
    exact .ok rfl
  | numbers hop hl hr =>
    rw [eval]
    refine (yields_eval hl).bind fun v hv => ?_
    exact (yields_eval hr).bind fun w hw => Operator.yields_apply_numbers hop hv hw
  | values hop hl hr =>
    rw [eval]
    refine (yields_eval hl).bind fun v _ => ?_
    exact (yields_eval hr).bind fun w _ => Operator.yields_apply_values hop v w
  | @call name args f hf hargs =>
    rw [eval]
    refine (yields_evalAll hargs).bind fun vs hvs => ?_
    rw [Builtin.call, Builtin.ofName?_of_sameWord hf]
    exact Builtin.yields_apply hvs s name

theorem yields_evalAll {es : List Expr} {ts : List ValueType} (h : HaveTypes s es ts) :
    Yields (fun vs => vs.map Value.type = ts) (evalAll s es) := by
  cases h with
  | nil => exact .ok rfl
  | cons he hes =>
    rw [evalAll]
    refine (yields_eval he).bind fun v hv => ?_
    refine (yields_evalAll hes).bind fun vs hvs => ?_
    exact .ok (by rw [List.map_cons, hv, hvs])

end

/-- Evaluation is type sound. A well-typed expression has a value of its type, or what some values
are stands in the way; it never fails for a type, a name or a number of arguments. A call looks at
its arguments only at places that it has been found to have. -/
theorem eval_of_hasType :
    (∀ (s : State) (e : Expr) (t : ValueType), HasType s e t →
      (∃ v, e.eval s = .ok v ∧ v.type = t) ∨
        ∃ cause, e.eval s = .error cause ∧ (cause.code = .divisionByZero ∨
          cause.code = .overflow ∨ cause.code = .invalidColor)) ∧
    ∀ (s : State) (name : String) (args : List Value), Builtin.call s name args =
      match Builtin.ofName? name with
      | none => .error (.undefinedFunction name)
      | some f =>
        if h : args.length = f.arity then f.read s fun i => args[i]
        else .error (.argumentCount name f.arity args.length) := by
  constructor
  · intro s e t h
    exact yields_eval h
  · intro s name args
    rw [Builtin.call]
    split
    · rename_i f hf
      rw [hf, Builtin.apply_eq_read]
    · rename_i hnone
      rw [hnone]

/-- A call under another case of its name, with a variable that names no color. -/
theorem eval_call_of_variable :
    let s : State := { canvas := .blank 3, vars := ⟨[("n", .text "Pink")]⟩ }
    let e : Expr :=
      .binary .or (.call "isbrushCOLOR" [.var "n"]) (.binary .divide (.int 1) (.int 0))
    HasType s e .number ∧
      ((∃ v, e.eval s = .ok v ∧ v.type = .number) ∨
        ∃ cause, e.eval s = .error cause ∧ (cause.code = .divisionByZero ∨
          cause.code = .overflow ∨ cause.code = .invalidColor)) := by
  intro s e
  have hn : HasType s (.var "n") .text := .var (v := .text "Pink") rfl
  have hcall : HasType s (.call "isbrushCOLOR" [.var "n"]) .number :=
    .call (f := .isBrushColor) (by decide) (.cons hn .nil)
  have he : HasType s e .number := .values rfl hcall (.numbers rfl (.int 1) (.int 0))
  exact ⟨he, eval_of_hasType.1 s e .number he⟩

end Expr

end PaintRobot
