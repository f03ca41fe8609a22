import Mathlib.Algebra.BigOperators.Group.List.Basic
import Mathlib.Tactic.Linarith

/-!
# Expanded lists

A list in which every element stands for as many places as its weight says, as
the bytes of a text stand for its characters.
-/

set_option autoImplicit false

namespace Expansion
variable {α β : Type}

def weight (w : α → Nat) (xs : List α) : Nat := (xs.map w).sum

def expand (w : α → Nat) (f : α → β) (xs : List α) : List β := xs.flatMap fun x => List.replicate (w x) (f x)

variable {w : α → Nat} {f : α → β}

@[simp] theorem weight_nil : weight w [] = 0 := rfl

@[simp] theorem weight_cons (x : α) (xs : List α) : weight w (x :: xs) = w x + weight w xs := by
  simp [weight]

@[simp] theorem weight_append (xs ys : List α) : weight w (xs ++ ys) = weight w xs + weight w ys := by
  simp [weight]

theorem weight_map (g : β → α) (xs : List β) : weight w (xs.map g) = weight (w ∘ g) xs := by
  simp [weight]

@[simp] theorem expand_append (xs ys : List α) : expand w f (xs ++ ys) = expand w f xs ++ expand w f ys := by
  simp [expand]

theorem length_expand (xs : List α) : (expand w f xs).length = weight w xs := by
  simp [expand, weight, List.length_flatMap]

/-- A place inside the stretch of an element. -/
theorem getElem?_expand {front back : List α} {x : α} {k : Nat} (inside : k < w x) :
    (expand w f (front ++ x :: back))[weight w front + k]? = some (f x) := by
  rw [expand_append, List.getElem?_append_right (by rw [length_expand]; omega), length_expand, Nat.add_sub_cancel_left]
  have first : expand w f (x :: back) = List.replicate (w x) (f x) ++ expand w f back := rfl
  rw [first, List.getElem?_append_left (by simpa using inside)]
  simp [inside]

/-- Elements of one stretch each, that share their image. -/
theorem expand_const {xs : List α} {b : β} (same : ∀ x ∈ xs, f x = b) : expand w f xs = List.replicate (weight w xs) b := by
  induction xs with
  | nil => rfl
  | cons x xs ih =>
      have first : expand w f (x :: xs) = List.replicate (w x) (f x) ++ expand w f xs := rfl
      rw [first, ih fun y member => same y (List.mem_cons_of_mem _ member), same x List.mem_cons_self, weight_cons,
        List.replicate_append_replicate]

end Expansion
