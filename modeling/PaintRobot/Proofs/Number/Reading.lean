import PaintRobot.Number.Reading
import Mathlib.Data.List.TakeWhile

/-!
The texts of numbers. An integer is read from exactly the texts of decimal digits behind at most one
sign, and a real only from digits, a point, an exponent mark and signs.
-/
namespace PaintRobot.Number

/-- Decimal digits, at least one. -/
def Digits (s : List Char) : Prop := s ≠ [] ∧ ∀ c ∈ s, c.isDigit = true

theorem digits_singleton {c : Char} (hc : c.isDigit = true) : Digits [c] :=
  ⟨List.cons_ne_nil c [], by simpa using hc⟩

/-- Decimal digits behind at most one sign, and the integer they spell. -/
inductive Spells : List Char → Int → Prop where
  | plain {s : List Char} (h : Digits s) : Spells s (digitsValue s)
  | plus {s : List Char} (h : Digits s) : Spells ('+' :: s) (digitsValue s)
  | minus {s : List Char} (h : Digits s) : Spells ('-' :: s) (-digitsValue s)

theorem natural?_eq_some_iff {s : List Char} {n : Nat} :
    natural? s = some n ↔ Digits s ∧ digitsValue s = n := by
  simp [natural?, Digits, and_assoc]

theorem signed?_eq_some_iff {s : List Char} {n : Int} : signed? s = some n ↔ Spells s n := by
  constructor
  · intro h
    unfold signed? at h
    split at h <;> obtain ⟨_, ho, rfl⟩ := Option.map_eq_some_iff.mp h <;>
      obtain ⟨v, hv, hn⟩ := Option.bind_eq_some_iff.mp ho <;> cases hn <;>
      obtain ⟨hd, rfl⟩ := natural?_eq_some_iff.mp hv
    · exact .minus hd
    · exact .plus hd
    · exact .plain hd
  · intro h
    cases h with
    | plus h | minus h => simp [signed?, natural?_eq_some_iff.mpr ⟨h, rfl⟩]
    | plain h =>
      unfold signed?
      split
      · exact absurd (h.2 '-' (by simp)) (by decide)
      · exact absurd (h.2 '+' (by simp)) (by decide)
      · simp [natural?_eq_some_iff.mpr ⟨h, rfl⟩]

theorem integer?_eq_some_iff {s : List Char} {k : Int32} :
    integer? s = some k ↔ ∃ n, Spells s n ∧ fitsInteger n = true ∧ Int32.ofInt n = k := by
  simp [integer?, Option.filter_eq_some_iff, signed?_eq_some_iff, and_assoc]

theorem integer?_eq_none_iff {s : List Char} :
    integer? s = none ↔ ∀ n, Spells s n → fitsInteger n = false := by
  simp [integer?, Option.filter_eq_none_iff, signed?_eq_some_iff]

/-- The characters of an integer are digits and a sign. -/
theorem Spells.mem {s : List Char} {n : Int} (h : Spells s n) :
    ∀ c ∈ s, c.isDigit = true ∨ c = '+' ∨ c = '-' := by
  cases h with
  | plain h => exact fun c hc => .inl (h.2 c hc)
  | plus h | minus h =>
    intro c hc
    rcases List.mem_cons.mp hc with rfl | hc
    · simp
    · exact .inl (h.2 c hc)

theorem mem_of_exponent? {s : List Char} {n : Int} (h : exponent? s = some n) :
    ∀ c ∈ s, c.isDigit = true ∨ c ∈ ['.', 'e', 'E', '+', '-'] := by
  cases s with
  | nil => simp
  | cons d s =>
    simp only [exponent?, Option.ite_none_right_eq_some, Bool.or_eq_true, beq_iff_eq] at h
    intro c hc
    rcases List.mem_cons.mp hc with rfl | hc
    · rcases h.1 with rfl | rfl <;> simp
    · rcases (signed?_eq_some_iff.mp h.2).mem c hc with hd | rfl | rfl <;> simp [*]

theorem mem_of_decimal? {whole places ending : List Char} {d : Decimal}
    (h : decimal? whole places ending = some d) :
    ∀ c ∈ ending, c.isDigit = true ∨ c ∈ ['.', 'e', 'E', '+', '-'] := by
  unfold decimal? at h
  split at h
  · cases h
  · obtain ⟨e, he, -⟩ := Option.map_eq_some_iff.mp h
    exact mem_of_exponent? he

/-- The characters of a real are digits, a point, an exponent mark and signs. -/
theorem mem_of_real? {s : List Char} {x : Float} (h : real? s = some x) :
    ∀ c ∈ s, c.isDigit = true ∨ c ∈ ['.', 'e', 'E', '+', '-'] := by
  obtain ⟨d, hd, -⟩ := Option.map_eq_some_iff.mp h
  intro c hc
  rw [← List.takeWhile_append_dropWhile (p := Char.isDigit) (l := s)] at hc
  rcases List.mem_append.mp hc with hc | hc
  · exact .inl (List.mem_takeWhile_imp hc)
  split at hd
  · rename_i tail hs
    rw [hs, ← List.takeWhile_append_dropWhile (p := Char.isDigit) (l := tail)] at hc
    rcases List.mem_cons.mp hc with rfl | hc
    · simp
    · rcases List.mem_append.mp hc with hc | hc
      · exact .inl (List.mem_takeWhile_imp hc)
      · exact mem_of_decimal? hd c hc
  · exact mem_of_decimal? hd c hc

end PaintRobot.Number
