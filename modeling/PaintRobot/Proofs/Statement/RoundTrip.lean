import PaintRobot.Line
import PaintRobot.Proofs.Statement.Forms

/-!
Reading what is written, statement by statement. A line that writes a statement is a line of code,
and the statement is read back from it.
-/
namespace PaintRobot

open Text (Gap Bare isWordChar isIdentifier isLabel sameWord)

namespace Statement

/-- `Renders t st`: the text `t`, with no blanks before it, writes the statement `st`. -/
inductive Renders : List Char → Statement → Prop where
  | verb {name : List Char} {v : Verb} (hv : sameWord name v.name.toList = true) :
      Renders name (.command v [])
  | command {name g inside : List Char} {v : Verb} {ps : List Param}
      (hv : sameWord name v.name.toList = true) (hg : Gap g) (hps : Param.Renderings inside ps)
      (harrow : ¬['<', '-'] <:+: name ++ g ++ '(' :: inside ++ [')']) :
      Renders (name ++ g ++ '(' :: inside ++ [')']) (.command v ps)
  | goTo {word g h label k rest : List Char} {e : Expr}
      (hword : sameWord word "goto".toList = true) (hg : Gap g) (hh : Gap h)
      (hlabel : isLabel label = true) (hk : Gap k) (hrest : Condition rest e) :
      Renders (word ++ g ++ '[' :: (h ++ label ++ k) ++ ']' :: rest)
        (.goTo (String.ofList label) e)
  | assign {name g value : List Char} {e : Expr} (hn : isIdentifier name = true)
      (hgoto : sameWord name "goto".toList = false) (hg : Gap g) (he : Expr.parse value = .ok e) :
      Renders (name ++ g ++ '<' :: '-' :: value) (.assign (String.ofList name) e)

/-- A text is a rendering of a statement if it writes it, with any blanks around the whole. -/
inductive Rendering : List Char → Statement → Prop where
  | mk {g t h : List Char} {st : Statement} (hg : Gap g) (hh : Gap h) (ht : Renders t st) :
      Rendering (g ++ t ++ h) st

end Statement

/-! ### Lines of code -/

namespace Line

theorem isBlank_of_isLineEnd {c : Char} (hc : isLineEnd c = true) : Text.isBlank c = true := by
  rcases (by simpa [isLineEnd] using hc : c = '\r' ∨ c = '\n') with rfl | rfl <;> decide

/-- The line ends that a line leaves out are blanks. -/
theorem trim_ofText (s : List Char) : Text.trim (ofText s).text = Text.trim s := by
  have hs : (ofText s).text ++ (s.reverse.takeWhile isLineEnd).reverse = s := by
    rw [ofText, ← List.reverse_append, List.takeWhile_append_dropWhile, List.reverse_reverse]
  have hends : Gap (s.reverse.takeWhile isLineEnd).reverse := by
    intro c hc
    exact isBlank_of_isLineEnd (List.mem_takeWhile_imp (List.mem_reverse.mp hc))
  have htrim := Text.trim_of_gaps Text.gap_nil hends (s := (ofText s).text)
  rw [List.nil_append, hs] at htrim
  exact htrim.symm

/-- A text with no blanks around it that does not end like a label. -/
def IsCode (s : List Char) : Prop := Bare s ∧ s.getLast? ≠ some ':'

theorem isCode_concat {s : List Char} {c : Char} (hs : Bare (s ++ [c])) (hc : c ≠ ':') :
    IsCode (s ++ [c]) := by
  refine ⟨hs, ?_⟩
  rw [List.getLast?_concat]
  simpa using hc

theorem kind_of_isCode {l : Line} (h : IsCode (Text.trim l.text)) : l.kind = .code := by
  simp [kind, h.1.ne_nil, h.2]

end Line

theorem Text.getLast?_ne_colon {s : List Char} (hs : ∀ c ∈ s, isWordChar c = true) :
    s.getLast? ≠ some ':' := by
  intro hlast
  exact absurd (hs ':' (List.mem_of_getLast? hlast)) (by decide +kernel)

/-- No expression ends in a colon. -/
theorem Expr.Renders.getLast?_ne_colon {p : Nat} {t : List Char} {e : Expr} (h : Renders p t e) :
    t.getLast? ≠ some ':' := by
  induction h with
  | int ht hn =>
    intro hlast
    exact absurd (ht.mem ':' (List.mem_of_getLast? hlast)) (by decide)
  | real hc hsign hint hx =>
    intro hlast
    exact absurd (Number.mem_of_real? hx ':' (List.mem_of_getLast? hlast)) (by decide)
  | true ht => exact Text.getLast?_ne_colon (Text.isWordChar_of_sameWord ht (by decide +kernel))
  | false ht => exact Text.getLast?_ne_colon (Text.isWordChar_of_sameWord ht (by decide +kernel))
  | var ht => exact Text.getLast?_ne_colon (Text.isWordChar_of_isIdentifier ht)
  | text | callEmpty | call | group =>
    rw [List.getLast?_concat]
    decide
  | plus hg ht ih | minus hg ht hint ih =>
    rwa [List.getLast?_append_of_ne_nil _ ht.solid.bare.ne_nil]
  | binary hp hl hg hh hr ihl ihr =>
    rwa [List.getLast?_append_of_ne_nil _ hr.solid.bare.ne_nil]

namespace Statement

theorem Condition.isCode {rest : List Char} {e : Expr} (h : Condition rest e) {s m : List Char}
    (hs : Bare s) : Line.IsCode (s ++ m ++ ']' :: rest) := by
  cases h with
  | always =>
    have hend : Bare [']'] := Text.bare_of_forall (by simp) (by simpa using by decide)
    exact Line.isCode_concat (hs.append m hend) (by decide)
  | @when g c e hg hc =>
    have hsplit : s ++ m ++ ']' :: (g ++ '(' :: c ++ [')']) =
        s ++ (m ++ ']' :: (g ++ '(' :: c)) ++ [')'] := by simp
    rw [hsplit]
    exact Line.isCode_concat (hs.append _ (Text.bare_mark (by decide))) (by decide)

/-- What writes a statement is a text of code from which the statement is read, with blanks behind
it at most. -/
theorem Renders.exists_code {t : List Char} {st : Statement} (h : Renders t st) :
    ∃ u k, t = u ++ k ∧ Gap k ∧ Line.IsCode u ∧ parse u = .ok st := by
  cases h with
  | verb hv =>
    have hn := Verb.isIdentifier_of_sameWord hv
    have hlast := Text.getLast?_ne_colon (Text.isWordChar_of_isIdentifier hn)
    have hbare := (Text.isWord_of_isIdentifier hn).bare
    exact ⟨t, [], by simp, Text.gap_nil, ⟨hbare, hlast⟩, parse_verb hv⟩
  | @command name g inside v ps hv hg hps harrow =>
    have hn := Verb.isIdentifier_of_sameWord hv
    have hcode := Line.isCode_concat (Expr.Solid.call hn hg hps.balanced).bare (by decide)
    exact ⟨_, [], by simp, Text.gap_nil, hcode, parse_command hv hg hps harrow⟩
  | @goTo word g h label k rest e hword hg hh hlabel hk hrest =>
    have hbare := (Text.isWord_of_sameWord hword (by decide) (by decide +kernel)).bare
    have hcode := hrest.isCode (m := g ++ '[' :: (h ++ label ++ k)) hbare
    rw [← List.append_assoc] at hcode
    exact ⟨_, [], by simp, Text.gap_nil, hcode, parse_goTo hword hg hh hlabel hk hrest hcode.1⟩
  | @assign name g value e hn hgoto hg he =>
    cases Expr.rendering_of_parse he with
    | @mk a t k _ ha hk ht =>
      have hvalue : Expr.parse (a ++ t) = .ok e := by
        simpa using ht.parse_eq ha Text.gap_nil
      have hsplit : name ++ g ++ '<' :: '-' :: (a ++ t) = name ++ (g ++ '<' :: '-' :: a) ++ t := by
        simp
      have hcode : Line.IsCode (name ++ g ++ '<' :: '-' :: (a ++ t)) := by
        rw [hsplit]
        refine ⟨(Text.isWord_of_isIdentifier hn).bare.append _ ht.solid.bare, ?_⟩
        rw [List.getLast?_append_of_ne_nil _ ht.solid.bare.ne_nil]
        exact ht.getLast?_ne_colon
      exact ⟨_, k, by simp, hk, hcode, parse_assign hn hgoto hg hvalue hcode.1⟩

theorem parse_trim (s : List Char) : parse (Text.trim s) = parse s := by
  rw [parse, parse, Text.trim_trim]

end Statement

/-- A line that writes a statement is read as that statement. -/
theorem Line.read_of_rendering {s : List Char} {st : Statement} (h : Statement.Rendering s st) :
    (ofText s).kind = .code ∧ (ofText s).statement = .ok st := by
  obtain @⟨g, t, h, st, hg, hh, ht⟩ := h
  obtain ⟨u, k, rfl, hk, hcode, hread⟩ := ht.exists_code
  have htrim : Text.trim (ofText (g ++ (u ++ k) ++ h)).text = u := by
    rw [trim_ofText, ← List.append_assoc, List.append_assoc (g ++ u)]
    exact Text.trim_padded hg (hk.append hh) hcode.1
  constructor
  · apply kind_of_isCode
    rwa [htrim]
  · rw [statement, ← Statement.parse_trim, htrim, hread]

theorem Line.read_jump_under_condition :
    (ofText " GoTo [ -a ]( x <-1 )\n".toList).kind = .code ∧
      (ofText " GoTo [ -a ]( x <-1 )\n".toList).statement =
        .ok (.goTo "-a" (.binary .less (.var "x") (.int (-1)))) := by
  have hgap : Gap [' '] := List.forall_mem_singleton.mpr (by decide)
  have hend : Gap ['\n'] := List.forall_mem_singleton.mpr (by decide)
  have hx : Expr.Renders 3 ['x'] (.var "x") := .var (by decide +kernel) (by decide) (by decide)
  have hone : Expr.Renders 4 ['-', '1'] (.int (-1)) :=
    .int (n := -1) (.minus (Number.digits_singleton rfl)) (by decide)
  have hless := @Expr.Renders.binary 0 .less _ _ _ _ _ _ (by decide) hx hgap Text.gap_nil hone
  have hread : Expr.parse " x <-1 ".toList = .ok (.binary .less (.var "x") (.int (-1))) :=
    hless.parse_eq hgap hgap
  have ht := @Statement.Renders.goTo "GoTo".toList [' '] [' '] ['-', 'a'] [' '] _ _ (by decide)
    hgap hgap (by decide +kernel) hgap (.when Text.gap_nil hread)
  exact read_of_rendering (.mk hgap hend ht)

end PaintRobot
