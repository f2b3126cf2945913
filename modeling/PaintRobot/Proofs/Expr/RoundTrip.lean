import PaintRobot.Expr.Parse
import PaintRobot.Proofs.Expr.Forms

/-!
Reading what is written. The form of a rendering is the last rule of the grammar that it was made
by, so reading gives back the tree that it renders.
-/
namespace PaintRobot.Expr

open Text (Gap Bare)
open Nesting (Finds)

theorem mapM_parse {args : List Argument} (h : ∀ a ∈ args, parse a.text = .ok a.value) :
    (args.map Argument.text).mapM parse = .ok (args.map Argument.value) := by
  induction args with
  | nil => rfl
  | cons a args ih =>
    rw [List.map_cons, List.mapM_cons, h a (by simp), ih fun b hb => h b (by simp [hb])]
    rfl

theorem parse_padded {g t h : List Char} (hg : Gap g) (hh : Gap h) (ht : Bare t) {f : Form}
    (hf : Form.ofTrimmed t = .ok f) : parse (g ++ t ++ h) = f.toExpr parse := by
  rw [parse_eq, Form.ofText, Text.trim_padded hg hh ht, hf]
  rfl

theorem goesOn_of_spells {t : List Char} {n : Int} (ht : Number.Spells t n) : GoesOn t := by
  rcases isWord_of_spells ht with hw | ⟨c, u, rfl, hc, -⟩
  · exact goesOn_word hw
  · exact goesOn_sign hc u

theorem Renders.finds_nil {t : List Char} {e : Expr} (h : Renders 7 t e) : Finds t [] := by
  obtain ⟨ops, hf, hops⟩ := h.finds
  cases eq_nil_of_forall_le_precedence hops
  exact hf

theorem ofTrimmed_binary {op : Operator} {l g h r : List Char} {a b : Expr}
    (hl : Renders op.precedence l a) (hg : Gap g) (hh : Gap h)
    (hr : Renders (op.precedence + 1) r b) :
    Form.ofTrimmed (l ++ g ++ op.text.toList ++ h ++ r) = .ok (.binary op (l ++ g) (h ++ r)) := by
  obtain ⟨ls, hfl, hls⟩ := hl.finds
  obtain ⟨rs, hfr, hrs⟩ := hr.finds
  have hbest := Nesting.loosestOperator_of_finds (hfl.binary op hg hh hfr hr.solid.opens) hls
    (Nesting.forall_mem_shift hrs)
  have hne : l ++ g ++ op.text.toList ++ h ++ r ≠ [] := by
    simp [hl.solid.bare.ne_nil]
  have hop : op.text.toList.length = op.length := by rw [String.length_toList, op.length_text]
  have htake : (l ++ g ++ op.text.toList ++ h ++ r).take (l.length + g.length) = l ++ g := by
    rw [List.append_assoc _ h, List.append_assoc (l ++ g)]
    exact List.take_left' List.length_append
  have hdrop : (l ++ g ++ op.text.toList ++ h ++ r).drop (l.length + g.length + op.length) =
      h ++ r := by
    rw [List.append_assoc _ h]
    exact List.drop_left' (by simp [hop, Nat.add_assoc])
  rw [Form.ofTrimmed_of_loosest hne (goesOn_binary op hl.solid.groupEnds hg) hbest, htake, hdrop]

theorem parse_atom {g t h : List Char} {e : Expr} (ht : Renders 7 t e) (hgo : GoesOn t)
    (hg : Gap g) (hh : Gap h) {f : Form} (hf : Form.ofAtom t = .ok f) :
    parse (g ++ t ++ h) = f.toExpr parse := by
  apply parse_padded hg hh ht.solid.bare
  rw [Form.ofTrimmed_of_finds_nil ht.solid.bare.ne_nil hgo ht.finds_nil, hf]

/-- Reading gives back the tree that a text renders, whatever blanks stand around the text. -/
theorem Renders.parse_eq {p : Nat} {t : List Char} {e : Expr} (ht : Renders p t e)
    {g h : List Char} (hg : Gap g) (hh : Gap h) : parse (g ++ t ++ h) = .ok e := by
  induction ht generalizing g h with
  | int ht hn =>
    exact parse_atom (.int ht hn) (goesOn_of_spells ht) hg hh (Form.ofAtom_int ht hn)
  | real hc hsign hint hx =>
    exact parse_atom (.real hc hsign hint hx) (goesOn_word (isWord_of_real? hc hsign hx)) hg hh
      (Form.ofAtom_real hc hint hx)
  | text hs =>
    exact parse_atom (.text hs) (goesOn_cons (by decide) (by decide) _) hg hh
      (Form.ofAtom_quoted hs)
  | true ht =>
    exact parse_atom (.true ht) (goesOn_word (isWord_true ht)) hg hh (if_pos ht)
  | false ht =>
    exact parse_atom (.false ht) (goesOn_word (isWord_false ht)) hg hh (Form.ofAtom_false ht)
  | var ht htrue hfalse =>
    exact parse_atom (.var ht htrue hfalse) (goesOn_word (Text.isWord_of_isIdentifier ht)) hg hh
      (Form.ofAtom_var ht htrue hfalse)
  | @callEmpty p name gap inside hn hg' hi =>
    have hargs : splitArguments inside = .ok [] := by
      rw [splitArguments, Text.trim_gap hi]
      rfl
    rw [parse_padded hg hh (Renders.callEmpty (p := p) hn hg' hi).solid.bare
      (Form.ofTrimmed_call hn hg' (Nesting.closed_gap hi).balanced hargs)]
    rfl
  | @call p name gap a args hn hg' hgaps hargs ih =>
    have hsolid : ∀ b ∈ a :: args, Solid b.text := fun b hb => (hargs b hb).solid
    have hinside := balanced_arguments hgaps fun b hb => (hsolid b hb).closed
    have hread : ∀ b ∈ a :: args, parse b.text = .ok b.value := fun b hb => by
      simpa using ih b hb Text.gap_nil Text.gap_nil
    rw [parse_padded hg hh (Renders.call (p := p) hn hg' hgaps hargs).solid.bare
      (Form.ofTrimmed_call hn hg' hinside (Form.splitArguments_padded hgaps hsolid)), Form.toExpr,
      mapM_parse hread]
    rfl
  | group hg' hh' ht ih =>
    have hinside := ((Nesting.closed_gap hg').append ht.solid.closed).append (Nesting.closed_gap hh')
    rw [parse_padded hg hh (Renders.group (p := 0) hg' hh' ht).solid.bare
      (Form.ofTrimmed_group hinside.balanced)]
    exact ih hg' hh'
  | @plus p g' t e hg' ht ih =>
    have hr : Renders 7 ('+' :: g' ++ t) e := .plus hg' ht
    have hpart : parse (g' ++ t) = .ok e := by simpa using ih hg' Text.gap_nil
    cases hint : Number.integer? ('+' :: (g' ++ t)) with
    | none =>
      rw [parse_atom hr (goesOn_sign (.inl rfl) _) hg hh (Form.ofAtom_plus hint)]
      exact hpart
    | some k =>
      -- A literal with its sign has the value of its digits, which are the operand.
      obtain ⟨n, hn, hfits, rfl⟩ := Number.integer?_eq_some_iff.mp hint
      have hdigits : Number.Spells (g' ++ t) n := by
        cases hn with
        | plus hd => exact .plain hd
        | plain hd => exact absurd (hd.2 '+' (by simp)) (by decide)
      have hint' : parse (g' ++ t) = .ok (.int (Int32.ofInt n)) := by
        simpa [Form.toExpr] using parse_atom (.int hdigits hfits) (goesOn_of_spells hdigits)
          Text.gap_nil Text.gap_nil (Form.ofAtom_int hdigits hfits)
      rw [parse_atom hr (goesOn_sign (.inl rfl) _) hg hh (Form.ofAtom_int hn hfits), ← hpart, hint']
      rfl
  | @minus p g' t e hg' ht hint ih =>
    have hr : Renders 7 ('-' :: g' ++ t) (.binary .minus (.int 0) e) := .minus hg' ht hint
    have hpart : parse (g' ++ t) = .ok e := by simpa using ih hg' Text.gap_nil
    rw [parse_atom hr (goesOn_sign (.inr rfl) _) hg hh
      (Form.ofAtom_minus (t := g' ++ t) (Number.integer?_eq_none_iff.mpr hint)), Form.toExpr, hpart]
    rfl
  | @binary p op l g' h' r a b hp hl hg' hh' hr ihl ihr =>
    have hleft : parse (l ++ g') = .ok a := by simpa using ihl Text.gap_nil hg'
    have hright : parse (h' ++ r) = .ok b := by simpa using ihr hh' Text.gap_nil
    rw [parse_padded hg hh (Renders.binary hp hl hg' hh' hr).solid.bare
      (ofTrimmed_binary hl hg' hh' hr), Form.toExpr, hleft, hright]
    rfl

/-- Every rendering of a tree is read back as that tree. -/
theorem parse_of_rendering {s : List Char} {e : Expr} (h : Rendering s e) : parse s = .ok e := by
  obtain ⟨hg, hh, ht⟩ := h
  exact ht.parse_eq hg hh

theorem parse_signed_call_power :
    Rendering " - f( \"(,\",7) ** 2 <= x".toList
        (.binary .lessEqual (.binary .power
          (.binary .minus (.int 0) (.call "f" [.text "(,", .int 7])) (.int 2)) (.var "x")) ∧
      parse " - f( \"(,\",7) ** 2 <= x".toList = .ok
        (.binary .lessEqual (.binary .power
          (.binary .minus (.int 0) (.call "f" [.text "(,", .int 7])) (.int 2)) (.var "x")) := by
  have hgap : Gap [' '] := by
    intro c hc
    rw [List.mem_singleton.mp hc]
    decide
  have hs : Renders 0 ['"', '(', ',', '"'] (.text "(,") := .text (s := ['(', ',']) (by decide)
  have hseven : Renders 0 ['7'] (.int 7) := .int (n := 7) (.plain (Number.digits_singleton rfl)) (by decide)
  have hf : Renders 7 "f( \"(,\",7)".toList (.call "f" [.text "(,", .int 7]) :=
    @Renders.call 7 ['f'] [] ⟨[' '], ['"', '(', ',', '"'], [], .text "(,"⟩
      [⟨[], ['7'], [], .int 7⟩] (by decide +kernel) Text.gap_nil
      (by simp [Argument.HasGaps, hgap, Text.gap_nil]) (by simp [hs, hseven])
  have hminus : Renders 6 "- f( \"(,\",7)".toList
      (.binary .minus (.int 0) (.call "f" [.text "(,", .int 7])) := by
    refine .minus hgap hf fun n hn => ?_
    exact absurd (hn.mem ' ' (by decide)) (by decide)
  have htwo : Renders 7 ['2'] (.int 2) := .int (n := 2) (.plain (Number.digits_singleton rfl)) (by decide)
  have hpower := @Renders.binary 3 .power _ _ _ _ _ _ (by decide) hminus hgap hgap htwo
  have hx : Renders 4 ['x'] (.var "x") := .var (by decide +kernel) (by decide) (by decide)
  have hr := @Renders.binary 0 .lessEqual _ _ _ _ _ _ (by decide) hpower hgap hgap hx
  exact ⟨.mk hgap Text.gap_nil hr, parse_of_rendering (.mk hgap Text.gap_nil hr)⟩

end PaintRobot.Expr
