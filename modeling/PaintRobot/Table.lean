/-! Tables: values by their keys, each key at most once, in the order in which keys came. -/
namespace PaintRobot

structure Table (κ ν : Type) where
  entries : List (κ × ν) := []

namespace Table

variable {κ ν : Type} [DecidableEq κ]

def size (t : Table κ ν) : Nat := t.entries.length

def isEmpty (t : Table κ ν) : Bool := t.entries.isEmpty

def find? (key : κ) : List (κ × ν) → Option ν
  | [] => none
  | (k, v) :: rest => if key = k then some v else find? key rest

/-- The value of a key. -/
def get? (t : Table κ ν) (key : κ) : Option ν := find? key t.entries

def replace (key : κ) (value : ν) : List (κ × ν) → List (κ × ν)
  | [] => [(key, value)]
  | (k, v) :: rest => if key = k then (k, value) :: rest else (k, v) :: replace key value rest

/-- Gives a key a value, in its place if it has one, and else at the end. -/
def store (t : Table κ ν) (key : κ) (value : ν) : Table κ ν := ⟨replace key value t.entries⟩

theorem get?_store (t : Table κ ν) (key other : κ) (value : ν) :
    (t.store key value).get? other = if other = key then some value else t.get? other := by
  unfold get? store
  induction t.entries with
  | nil => rfl
  | cons e rest ih =>
    obtain ⟨k, v⟩ := e
    by_cases hk : key = k <;> by_cases ho : other = k <;> simp_all [find?, replace, eq_comm]

/-- Storing adds a key if it is a new one. -/
theorem size_store (t : Table κ ν) (key : κ) (value : ν) :
    (t.store key value).size = t.size + if (t.get? key).isSome then 0 else 1 := by
  unfold get? store size
  induction t.entries with
  | nil => rfl
  | cons e rest ih =>
    obtain ⟨k, v⟩ := e
    by_cases hk : key = k
    · simp_all [find?, replace]
    · simp_all [find?, replace]
      omega

end Table

end PaintRobot
