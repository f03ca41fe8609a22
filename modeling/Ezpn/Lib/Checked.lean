import Mathlib.Data.List.Basic

/-!
# Computations that may stop

A computation in `Option` that stops on an index outside of a vector, on an
absent value or on a difference below zero. `Ensures` says that it does not stop,
and what it returns; `Yields` says what it returns if it does not stop. There is one
rule for each way to compose computations.
-/

set_option autoImplicit false

namespace Checked
variable {α β : Type}

/-! ## What a computation ensures -/

def Ensures (x : Option α) (Q : α → Prop) : Prop := ∃ a, x = some a ∧ Q a

namespace Ensures
variable {x : Option α} {Q P : α → Prop} {R : β → Prop}

theorem some {a : α} (holds : Q a) : Ensures (some a) Q := ⟨a, rfl, holds⟩

theorem pure {a : α} (holds : Q a) : Ensures (Pure.pure a : Option α) Q := ⟨a, rfl, holds⟩

theorem bind {f : α → Option β} (first : Ensures x P) (next : ∀ a, P a → Ensures (f a) R) : Ensures (x >>= f) R := by
  obtain ⟨a, rfl, holds⟩ := first
  exact next a holds

theorem map {f : α → β} (first : Ensures x P) (next : ∀ a, P a → R (f a)) : Ensures (x.map f) R := by
  obtain ⟨a, rfl, holds⟩ := first
  exact ⟨f a, rfl, next a holds⟩

theorem mono (first : Ensures x P) (weaker : ∀ a, P a → Q a) : Ensures x Q := by
  obtain ⟨a, result, holds⟩ := first
  exact ⟨a, result, weaker a holds⟩

theorem holds {a : α} (ensured : Ensures x Q) (result : x = Option.some a) : Q a := by
  obtain ⟨b, other, holds⟩ := ensured
  cases other.symm.trans result
  exact holds

theorem ite {c : Prop} [Decidable c] {y : Option α} (yes : c → Ensures x Q) (no : ¬ c → Ensures y Q) :
    Ensures (if c then x else y) Q := by
  by_cases test : c
  · rw [if_pos test]
    exact yes test
  · rw [if_neg test]
    exact no test

end Ensures

/-! ## What it returns at most -/

def Yields (x : Option α) (Q : α → Prop) : Prop := ∀ a, x = some a → Q a

theorem Ensures.yields {x : Option α} {Q : α → Prop} (ensured : Ensures x Q) : Yields x Q := fun _ => ensured.holds

namespace Yields
variable {x : Option α} {Q P : α → Prop} {R : β → Prop}

theorem some {a : α} (holds : Q a) : Yields (some a) Q := fun _ result => Option.some.inj result ▸ holds

theorem and (first : Yields x P) (second : Yields x Q) : Yields x fun a => P a ∧ Q a :=
  fun a result => ⟨first a result, second a result⟩

theorem bind {f : α → Option β} (first : Yields x P) (next : ∀ a, P a → Yields (f a) R) : Yields (x >>= f) R := by
  intro b result
  obtain ⟨a, earlier, later⟩ := Option.bind_eq_some_iff.mp result
  exact next a (first a earlier) b later

theorem map {f : α → β} (first : Yields x P) (next : ∀ a, P a → R (f a)) : Yields (x.map f) R := by
  intro b result
  obtain ⟨a, earlier, rfl⟩ := Option.map_eq_some_iff.mp result
  exact next a (first a earlier)

theorem mono (first : Yields x P) (weaker : ∀ a, P a → Q a) : Yields x Q := fun a result => weaker a (first a result)

theorem ite {c : Prop} [Decidable c] {y : Option α} (yes : c → Yields x Q) (no : ¬ c → Yields y Q) :
    Yields (if c then x else y) Q := by
  by_cases test : c
  · rw [if_pos test]
    exact yes test
  · rw [if_neg test]
    exact no test

end Yields

/-! ## Loops -/

/-- A loop over a list keeps an invariant that each round keeps. -/
theorem ensures_foldlM {step : α → β → Option α} {I : α → Prop} (xs : List β)
    (round : ∀ a b, b ∈ xs → I a → Ensures (step a b) I) {a : α} (start : I a) :
    Ensures (xs.foldlM step a) I := by
  induction xs generalizing a with
  | nil => exact .pure start
  | cons x xs ih =>
      rw [List.foldlM_cons]
      exact (round a x (List.mem_cons_self ..) start).bind fun next kept =>
        ih (fun a b member => round a b (List.mem_cons_of_mem _ member)) kept

/-- A body, that many times. -/
def times (body : α → Option α) : Nat → α → Option α
  | 0, a => some a
  | n + 1, a => body a >>= times body n

theorem times_one (body : α → Option α) (a : α) : times body 1 a = body a := by
  cases result : body a <;> simp [times, result]

/-- The invariant may speak of the number of rounds that are left. -/
theorem ensures_times {body : α → Option α} {I : Nat → α → Prop} (n : Nat)
    (round : ∀ left a, left < n → I (left + 1) a → Ensures (body a) (I left)) {a : α} (start : I n a) :
    Ensures (times body n a) (I 0) := by
  induction n generalizing a with
  | zero => exact .some start
  | succ n ih =>
      refine (round n a (Nat.lt_succ_self n) start).bind fun next kept => ?_
      exact ih (fun left a below => round left a (Nat.lt_succ_of_lt below)) kept

theorem yields_times {body : α → Option α} {I : α → Prop} (round : ∀ a, I a → Yields (body a) I) (n : Nat) {a : α}
    (start : I a) : Yields (times body n a) I := by
  induction n generalizing a with
  | zero => exact .some start
  | succ n ih => exact (round a start).bind fun next kept => ih kept

/-! ## Operations that may stop -/

/-- A difference of unsigned numbers. -/
def sub (a b : Nat) : Option Nat := if b ≤ a then some (a - b) else none

theorem sub_of_le {a b : Nat} (below : b ≤ a) : sub a b = some (a - b) := if_pos below

/-- Update the element at an index. -/
def update (i : Nat) (f : α → Option α) (xs : List α) : Option (List α) :=
  match xs[i]? with
  | none => none
  | some x => (f x).map (xs.set i)

/-- `Vec::remove`. -/
def remove (i : Nat) (xs : List α) : Option (List α) :=
  if i < xs.length then some (xs.eraseIdx i) else none

/-- `Vec::insert`. -/
def insert (i : Nat) (x : α) (xs : List α) : Option (List α) :=
  if i ≤ xs.length then some (xs.insertIdx i x) else none

theorem ensures_update {i : Nat} {f : α → Option α} {xs : List α} {Q : List α → Prop} (inside : i < xs.length)
    (updated : Ensures (f xs[i]) fun x => Q (xs.set i x)) : Ensures (update i f xs) Q := by
  unfold update
  rw [List.getElem?_eq_getElem inside]
  exact updated.map fun x kept => kept

theorem ensures_remove {i : Nat} {xs : List α} {Q : List α → Prop} (inside : i < xs.length)
    (kept : Q (xs.eraseIdx i)) : Ensures (remove i xs) Q := ⟨_, if_pos inside, kept⟩

theorem ensures_insert {i : Nat} {x : α} {xs : List α} {Q : List α → Prop} (inside : i ≤ xs.length)
    (kept : Q (xs.insertIdx i x)) : Ensures (insert i x xs) Q := ⟨_, if_pos inside, kept⟩

theorem yields_update {i : Nat} {f : α → Option α} {xs : List α} :
    Yields (update i f xs) fun ys => ∀ k, k ≠ i → ys[k]? = xs[k]? := by
  unfold update
  cases xs[i]? with
  | none =>
      rintro _ ⟨⟩
  | some x => exact .map (P := fun _ => True) (fun _ _ => trivial) fun y _ k apart => List.getElem?_set_ne (Ne.symm apart)

/-- What is not between the two indices stays where it is. -/
theorem yields_remove_insert {first last : Nat} (ordered : first ≤ last) (x : α) (xs : List α) :
    Yields (remove last xs >>= insert first x) fun ys => ∀ k, k < first ∨ last < k → ys[k]? = xs[k]? := by
  intro ys result
  obtain ⟨shorter, removed, inserted⟩ := Option.bind_eq_some_iff.mp result
  unfold remove at removed
  unfold insert at inserted
  split_ifs at removed inserted
  cases removed
  cases inserted
  rintro k (before | after)
  · rw [List.getElem?_insertIdx_of_lt before, List.getElem?_eraseIdx_of_lt (by omega)]
  · rw [List.getElem?_insertIdx_of_gt (by omega), List.getElem?_eraseIdx_of_ge (by omega), Nat.sub_add_cancel (by omega)]

theorem yields_insert_remove {first last : Nat} (ordered : first ≤ last) (x : α) (xs : List α) :
    Yields (insert (last + 1) x xs >>= remove first) fun ys => ∀ k, k < first ∨ last < k → ys[k]? = xs[k]? := by
  intro ys result
  obtain ⟨longer, inserted, removed⟩ := Option.bind_eq_some_iff.mp result
  unfold remove at removed
  unfold insert at inserted
  split_ifs at removed inserted
  cases inserted
  cases removed
  rintro k (before | after)
  · rw [List.getElem?_eraseIdx_of_lt before, List.getElem?_insertIdx_of_lt (by omega)]
  · rw [List.getElem?_eraseIdx_of_ge (by omega), List.getElem?_insertIdx_of_gt (by omega), Nat.add_sub_cancel]

end Checked
