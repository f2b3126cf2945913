import PaintRobot.Fault
import PaintRobot.Operator
import PaintRobot.Text.Blank

/-!
Parentheses and quotes. A scan knows how many parentheses are open and whether it stands inside
quotes, where parentheses and separators are plain characters. With it a text is cut at the
parenthesis that closes a group, at commas, and at binary operators.
-/
namespace PaintRobot

/-- Where a scan stands. -/
structure Nesting where
  depth : Nat
  quoted : Bool
  deriving DecidableEq, Repr

namespace Nesting

/-- Outside all parentheses and quotes. -/
def top : Nesting := ⟨0, false⟩

def isTop (n : Nesting) : Bool := n.depth == 0 && !n.quoted

/-- Where the scan stands after a character; nowhere after a `)` that closes nothing. -/
def after? (n : Nesting) (c : Char) : Option Nesting :=
  if n.quoted then some ⟨n.depth, c != '"'⟩
  else if c = '"' then some ⟨n.depth, true⟩
  else if c = '(' then some ⟨n.depth + 1, false⟩
  else if c = ')' then if n.depth = 0 then none else some ⟨n.depth - 1, false⟩
  else some n

/-- What a text lacks that ends here. -/
def ending (n : Nesting) : Except Cause Unit :=
  if n.quoted then .error .unterminatedText
  else if n.depth ≠ 0 then .error .unbalanced
  else .ok ()

/-- Cuts a text at the first `)` that closes nothing before it in the text, and leaves it out. -/
def cutClosing? (n : Nesting) : List Char → Option (List Char × List Char)
  | [] => none
  | c :: rest =>
    match n.after? c with
    | none => some ([], rest)
    | some m => (cutClosing? m rest).map fun (inside, tail) => (c :: inside, tail)

/-- Cuts a text at its outer commas into a first piece and the others. -/
def pieces (n : Nesting) : List Char → Except Cause (List Char × List (List Char))
  | [] => n.ending.map fun _ => ([], [])
  | c :: rest =>
    if n.isTop && c == ',' then (pieces n rest).map fun (p, ps) => ([], p :: ps)
    else
      match n.after? c with
      | none => .error .unbalanced
      | some m => (pieces m rest).map fun (p, ps) => (c :: p, ps)

/-- The operator of two characters with which an outer text begins. -/
def pairAt? (n : Nesting) : List Char → Option Operator
  | c :: d :: _ => if n.isTop then Operator.ofPair? c d else none
  | _ => none

/-- The operator of one character at an outer place. -/
def charAt? (n : Nesting) (before : Option Char) (c : Char) : Option Operator :=
  if n.isTop then Operator.ofCharAfter? before c else none

/-- The character that stands before the next one; blanks outside quotes do not count. -/
def lastAfter (n : Nesting) (before : Option Char) (c : Char) : Option Char :=
  if n.quoted || !Text.isBlank c then some c else before

/-- The binary operators outside parentheses and quotes, with their places counted from `i`. After
an operator of two characters the second one is skipped, and the first one counts as before. -/
def operators (n : Nesting) (before : Option Char) (skip : Bool) (i : Nat) :
    List Char → Except Cause (List (Nat × Operator))
  | [] => n.ending.map fun _ => []
  | c :: rest =>
    if skip then operators n before false (i + 1) rest
    else
      match n.pairAt? (c :: rest) with
      | some op => (operators n (some c) true (i + 1) rest).map ((i, op) :: ·)
      | none =>
        match n.after? c with
        | none => .error .unbalanced
        | some m =>
          (operators m (n.lastAfter before c) false (i + 1) rest).map fun ops =>
            match n.charAt? before c with
            | some op => (i, op) :: ops
            | none => ops

theorem length_cutClosing? {n : Nesting} {s inside tail : List Char}
    (h : n.cutClosing? s = some (inside, tail)) :
    inside.length + tail.length + 1 = s.length := by
  induction s generalizing n inside tail with
  | nil => simp [cutClosing?] at h
  | cons c rest ih =>
    simp only [cutClosing?] at h
    split at h
    · simp only [Option.some.injEq, Prod.mk.injEq] at h
      simp [← h.1, ← h.2]
    · obtain ⟨⟨p, t⟩, hp, he⟩ := Option.map_eq_some_iff.mp h
      simp only [Prod.mk.injEq] at he
      have := ih hp
      simp only [← he.1, ← he.2, List.length_cons]
      omega

theorem length_pieces {n : Nesting} {s p : List Char} {ps : List (List Char)}
    (h : n.pieces s = .ok (p, ps)) : ∀ q ∈ p :: ps, q.length ≤ s.length := by
  induction s generalizing n p ps with
  | nil =>
    obtain ⟨_, _, he⟩ := map_eq_ok_iff.mp h
    simp only [Prod.mk.injEq] at he
    simp [← he.1, ← he.2]
  | cons c rest ih =>
    simp only [pieces] at h
    split at h
    · obtain ⟨⟨q, qs⟩, hq, he⟩ := map_eq_ok_iff.mp h
      simp only [Prod.mk.injEq] at he
      have := ih hq
      grind
    · split at h
      · cases h
      · obtain ⟨⟨q, qs⟩, hq, he⟩ := map_eq_ok_iff.mp h
        simp only [Prod.mk.injEq] at he
        have := ih hq
        grind

/-- An operator's place lies in the text. -/
theorem place_lt_of_mem_operators {n : Nesting} {before : Option Char} {skip : Bool} {i : Nat}
    {s : List Char} {ops : List (Nat × Operator)} (h : n.operators before skip i s = .ok ops) :
    ∀ o ∈ ops, o.1 < i + s.length := by
  induction s generalizing n before skip i ops with
  | nil =>
    obtain ⟨_, _, he⟩ := map_eq_ok_iff.mp h
    simp [← he]
  | cons c rest ih =>
    simp only [operators] at h
    split at h
    · have := ih h
      grind
    · split at h
      · obtain ⟨os, ho, he⟩ := map_eq_ok_iff.mp h
        have := ih ho
        grind
      · split at h
        · cases h
        · obtain ⟨os, ho, he⟩ := map_eq_ok_iff.mp h
          have := ih ho
          grind

end Nesting

/-- The text inside a group and the text after it, of a text that follows the opening `(`. -/
def cutGroup (s : List Char) : Except Cause (List Char × List Char) :=
  match Nesting.top.cutClosing? s with
  | some cut => .ok cut
  | none => .error .expectedClosing

/-- The pieces between the outer commas, trimmed. -/
def splitCommas (s : List Char) : Except Cause (List (List Char)) :=
  (Nesting.top.pieces s).map fun (p, ps) => (p :: ps).map Text.trim

theorem length_le_of_mem_splitCommas {s : List Char} {ps : List (List Char)}
    (h : splitCommas s = .ok ps) : ∀ p ∈ ps, p.length ≤ s.length := by
  obtain ⟨⟨q, qs⟩, hq, rfl⟩ := map_eq_ok_iff.mp h
  intro p hp
  obtain ⟨r, hr, rfl⟩ := List.mem_map.mp hp
  exact Nat.le_trans (Text.length_trim_le r) (Nesting.length_pieces hq r hr)

/-- The pieces between the outer commas; a blank text has none. -/
def splitArguments (s : List Char) : Except Cause (List (List Char)) :=
  if (Text.trim s).isEmpty then .ok [] else splitCommas s

theorem length_le_of_mem_splitArguments {s : List Char} {ps : List (List Char)}
    (h : splitArguments s = .ok ps) : ∀ p ∈ ps, p.length ≤ s.length := by
  unfold splitArguments at h
  split at h
  · cases h
    simp
  · exact length_le_of_mem_splitCommas h

/-- The looser of two operators; of two that bind alike the later one. -/
def looser (best : Option (Nat × Operator)) (next : Nat × Operator) : Option (Nat × Operator) :=
  match best with
  | some (i, op) => if next.2.precedence ≤ op.precedence then some next else some (i, op)
  | none => some next

/-- The operator that a text is to be split at: of the loosest ones the last. -/
def loosestOperator (s : List Char) : Except Cause (Option (Nat × Operator)) :=
  (Nesting.top.operators none false 0 s).map fun ops => ops.foldl looser none

theorem foldl_looser_mem {ops : List (Nat × Operator)} {best : Option (Nat × Operator)}
    {o : Nat × Operator} (h : ops.foldl looser best = some o) : o ∈ ops ∨ best = some o := by
  induction ops generalizing best with
  | nil => exact .inr h
  | cons p ps ih =>
    rcases ih h with hm | hb
    · exact .inl (List.mem_cons_of_mem _ hm)
    · cases best with
      | none => simp_all [looser]
      | some b =>
        simp only [looser] at hb
        split at hb
        · simp_all
        · exact .inr hb

theorem place_lt_of_loosestOperator {s : List Char} {i : Nat} {op : Operator}
    (h : loosestOperator s = .ok (some (i, op))) : i < s.length := by
  obtain ⟨ops, ho, hb⟩ := map_eq_ok_iff.mp h
  have hm : (i, op) ∈ ops := by simpa using foldl_looser_mem hb
  simpa using Nesting.place_lt_of_mem_operators ho _ hm

theorem length_cutGroup {s inside tail : List Char} (h : cutGroup s = .ok (inside, tail)) :
    inside.length < s.length := by
  unfold cutGroup at h
  split at h
  · cases h
    have := Nesting.length_cutClosing? (by assumption)
    omega
  · cases h

end PaintRobot
