import Mathlib.Data.List.Basic

/-!
# Lists with a cursor

A nonempty list with a position in it, the item under the cursor being the one in
use. Appending moves the cursor to the new item; dropping leaves it on the successor.
-/

set_option autoImplicit false

structure Cursor (α : Type) where
  items : List α
  pos : Nat
  inRange : pos < items.length

namespace Cursor
variable {α : Type}

theorem ext {c d : Cursor α} (items : c.items = d.items) (pos : c.pos = d.pos) : c = d := by
  cases c
  cases d
  cases items
  cases pos
  rfl

/-- The item in use. -/
def focus (c : Cursor α) : α := c.items.get ⟨c.pos, c.inRange⟩

/-- Replace the item in use. -/
def edit (a : α) (c : Cursor α) : Cursor α :=
  { items := c.items.set c.pos a, pos := c.pos, inRange := by rw [List.length_set]; exact c.inRange }

/-- Append an item and use it. -/
def push (a : α) (c : Cursor α) : Cursor α :=
  { items := c.items ++ [a], pos := c.items.length, inRange := by simp }

/-- Use the item at a position; out of range nothing moves. -/
def moveTo (target : Nat) (c : Cursor α) : Cursor α :=
  if inRange : target < c.items.length then { c with pos := target, inRange } else c

/-- Remove the item in use for its successor, or the new last one. The only item stays. -/
def drop (c : Cursor α) : Cursor α :=
  if several : 1 < c.items.length then
    { items := c.items.eraseIdx c.pos
      pos := min c.pos (c.items.length - 2)
      inRange := by rw [List.length_eraseIdx_of_lt c.inRange]; omega }
  else c

end Cursor
